import QueryWatch.Periodic.Heartbeat
import QueryWatch.Periodic.RequestRate
import QueryWatch.SlowQuery.Watcher

namespace QueryWatch

inductive BuiltinModule
  | slowQuery (w : SlowQuery.Watcher)
  | heartbeat (h : Periodic.Heartbeat)
  | requestRate (r : Periodic.RequestRate)

namespace BuiltinModule

instance : ModuleUnit BuiltinModule where
  name
    | slowQuery w => ModuleUnit.name w
    | heartbeat h => ModuleUnit.name h
    | requestRate r => ModuleUnit.name r
  transform e
    | slowQuery w => let (t, ms) := ModuleUnit.transform e w; (t.map slowQuery, ms)
    | heartbeat h => let (t, ms) := ModuleUnit.transform e h; (t.map heartbeat, ms)
    | requestRate r => let (t, ms) := ModuleUnit.transform e r; (t.map requestRate, ms)
  start now
    | slowQuery w => (ModuleUnit.start now w).map slowQuery
    | heartbeat h => (ModuleUnit.start now h).map heartbeat
    | requestRate r => (ModuleUnit.start now r).map requestRate
  stop
    | slowQuery w => (ModuleUnit.stop w).map slowQuery
    | heartbeat h => (ModuleUnit.stop h).map heartbeat
    | requestRate r => (ModuleUnit.stop r).map requestRate
  due?
    | slowQuery w => ModuleUnit.due? w
    | heartbeat h => ModuleUnit.due? h
    | requestRate r => ModuleUnit.due? r
  tick now
    | slowQuery w => (ModuleUnit.tick now w).map slowQuery
    | heartbeat h => (ModuleUnit.tick now h).map heartbeat
    | requestRate r => (ModuleUnit.tick now r).map requestRate
  name_transform e
    | slowQuery w => ModuleUnit.name_transform e w
    | heartbeat h => ModuleUnit.name_transform e h
    | requestRate r => ModuleUnit.name_transform e r
  name_start now
    | slowQuery w => ModuleUnit.name_start now w
    | heartbeat h => ModuleUnit.name_start now h
    | requestRate r => ModuleUnit.name_start now r
  name_stop
    | slowQuery w => ModuleUnit.name_stop w
    | heartbeat h => ModuleUnit.name_stop h
    | requestRate r => ModuleUnit.name_stop r
  name_tick now
    | slowQuery w => ModuleUnit.name_tick now w
    | heartbeat h => ModuleUnit.name_tick now h
    | requestRate r => ModuleUnit.name_tick now r

def baseTags : BuiltinModule → Labels
  | slowQuery w => w.baseTags
  | heartbeat h => h.baseTags
  | requestRate r => r.baseTags

def factory {α : Type} (wrap : α → BuiltinModule)
    (build : ModuleEntry → GlobalSettings → Except BuildError α) :
    Factory ModuleEntry BuiltinModule :=
  fun entry site => .ofExcept ((build entry site.global).map wrap)

def registry : Registry ModuleEntry BuiltinModule :=
  .ofList [("slow_query", factory slowQuery SlowQuery.Watcher.build),
    ("heartbeat", factory heartbeat Periodic.Heartbeat.build),
    ("request_rate", factory requestRate Periodic.RequestRate.build)]

end BuiltinModule

end QueryWatch
