import QueryWatch.Config.Decoder

namespace QueryWatch

namespace Config

structure Environment where
  bindings : KeyMap String
  machine : Option String := none

/-- Whether a process can have a variable: it has a name, which ends where an equals sign stands, and no text
of the environment goes on behind a zero. -/
def isVariable (name value : String) : Bool :=
  name ≠ "" && !name.contains '=' && !(name ++ value).contains '\x00'

def Environment.isPossible (e : Environment) : Bool :=
  e.bindings.entries.all fun (name, value) => isVariable name value

end Config

open Config

structure GlobalSettings where
  hostname : String
  systemName : String
  httpApiEnabled : Bool
  httpApiPort : UInt16
  deriving DecidableEq, Inhabited

structure ReporterEntry where
  kind : String
  options : KeyMap Json
  deriving Inhabited

structure ModuleEntry where
  kind : String
  measurementNamespace : Option String
  reporters : Option (List String)
  options : KeyMap Json
  deriving Inhabited

structure Configuration where
  global : GlobalSettings
  reporters : List ReporterEntry
  modules : List ModuleEntry

namespace Config.Environment

/-- A flag has to be spelled out in lower case to count. -/
def flag (env : Environment) (name : String) (default : Bool) : Bool :=
  match env.bindings.get? name with
  | some "true" => true
  | some "false" => false
  | _ => default

def port (env : Environment) (name : String) (default : UInt16) : UInt16 :=
  match (env.bindings.get? name).bind fun s => Text.Digits.bounded? UInt16.size s.toList with
  | some n => n.toUInt16
  | none => default

end Config.Environment

namespace GlobalSettings

def ofEnvironment (env : Environment) : GlobalSettings where
  hostname := (env.bindings.get? "DIAG_HOSTNAME").getD (env.machine.getD "localhost")
  systemName := (env.bindings.get? "DIAG_SYSTEM_NAME").getD "cassandra"
  httpApiEnabled := env.flag "DIAG_HTTP_API_ENABLED" true
  httpApiPort := env.port "DIAG_HTTP_API_PORT" 8998

/-- One key for all messages of a process. -/
def partitionKey (g : GlobalSettings) : String :=
  g.systemName ++ "_" ++ g.hostname

def record (env : Environment) : Record GlobalSettings where
  name := "GlobalConfiguration"
  start := ofEnvironment env
  fields :=
    [.of "hostname" readString fun s g => { g with hostname := s },
      .of "systemName" readString fun s g => { g with systemName := s },
      .of "httpApiEnabled" readBool fun b g => { g with httpApiEnabled := b },
      .of "httpApiPort" readUInt16 fun n g => { g with httpApiPort := n }]

def document (g : GlobalSettings) : Json :=
  .object [("hostname", .string g.hostname), ("httpApiEnabled", .bool g.httpApiEnabled),
    ("httpApiPort", .int g.httpApiPort.toNat), ("systemName", .string g.systemName)]

end GlobalSettings

namespace ReporterEntry

def record (d : Dialect) : Record ReporterEntry where
  name := "ReporterConfiguration"
  start := ⟨"", ∅⟩
  fields :=
    [(.of "kind" readString fun s e => { e with kind := s } : RecordField _).mandatory,
      .of "options" (readMap d) fun m e => { e with options := m }]

def document (e : ReporterEntry) : Json :=
  .object [("kind", .string e.kind), ("options", .object e.options.entries)]

end ReporterEntry

namespace ModuleEntry

def record (d : Dialect) : Record ModuleEntry where
  name := "ModuleConfiguration"
  start := ⟨"", none, none, ∅⟩
  fields :=
    [(.of "kind" readString fun s e => { e with kind := s } : RecordField _).mandatory,
      .of "measurementNamespace" (readOption readString)
        fun s e => { e with measurementNamespace := s },
      .of "reporters" (readOption (readList readString)) fun l e => { e with reporters := l },
      .of "options" (readMap d) fun m e => { e with options := m }]

def document (e : ModuleEntry) : Json :=
  .object [("kind", .string e.kind),
    ("measurementNamespace", (e.measurementNamespace.map .string).getD .null),
    ("options", .object e.options.entries),
    ("reporters", (e.reporters.map fun l => .array (l.map .string)).getD .null)]

def namespaceOr (e : ModuleEntry) (default : String) : String :=
  match e.measurementNamespace with
  | some s => if s = "" then default else s
  | none => default

end ModuleEntry

namespace Configuration

def record (env : Environment) (d : Dialect) : Record Configuration where
  name := "Configuration"
  start := ⟨.ofEnvironment env, [], []⟩
  fields :=
    [.of "global" ((GlobalSettings.record env).read d) fun g c => { c with global := g },
      .of "reporters" (readList ((ReporterEntry.record d).read d))
        fun l c => { c with reporters := l },
      .of "modules" (readList ((ModuleEntry.record d).read d)) fun l c => { c with modules := l }]

def ofDocument (env : Environment) : Reader Configuration :=
  (record env .json).read .json

def document (c : Configuration) : Json :=
  .object [("global", c.global.document),
    ("modules", .array (c.modules.map ModuleEntry.document)),
    ("reporters", .array (c.reporters.map ReporterEntry.document))]

end Configuration

end QueryWatch
