import Mathlib.Data.List.Nodup

namespace QueryWatch

/-- A unit, by the number of its configuration and its place there. -/
inductive Badge
  | module (generation place : Nat)
  | reporter (generation place : Nat)
  deriving DecidableEq

namespace Badge

def generation : Badge → Nat
  | module g _ => g
  | reporter g _ => g

def isModule : Badge → Bool
  | module _ _ => true
  | reporter _ _ => false

end Badge

/-- Something that happened to a unit. Of a module that was called it is known how many tasks it has then. -/
inductive Occurrence
  | built (b : Badge)
  | called (b : Badge) (running : Nat)
  | stopped (b : Badge) (running : Nat)
  /-- Some units are live now, and no others. -/
  | live (bs : List Badge)

abbrev History := List Occurrence

namespace History

def built (h : History) : List Badge :=
  h.filterMap fun
    | .built b => some b
    | _ => none

def stops (b : Badge) (h : History) : Nat :=
  h.countP fun
    | .stopped b' _ => b' = b
    | _ => false

def live (h : History) : List Badge :=
  h.foldl (fun bs o => match o with
    | .live bs => bs
    | _ => bs) []

def tell (b : Badge) (n : Nat) : Occurrence → Nat
  | .called b' k => if b' = b then k else n
  | .stopped b' k => if b' = b then k else n
  | _ => n

/-- How many tasks a unit has, as was last known. -/
def running (b : Badge) (h : History) : Nat :=
  h.foldl (tell b) 0

/-- What may happen after a history. -/
def Allowed (h : History) : Occurrence → Prop
  | .built b => b ∉ h.built ∧ ∀ b' ∈ h.built, b'.generation = b.generation → h.stops b' = 0
  | .called b _ => b ∈ h.built ∧ h.stops b = 0
  | .stopped b _ =>
    b ∈ h.built ∧ h.stops b = 0 ∧
      -- Its generation is not live any more, and the modules come before the reporters.
      (∀ b' ∈ h.live, b'.generation ≠ b.generation) ∧
      (b.isModule = false → ∀ b' ∈ h.built, b'.isModule = true → b'.generation = b.generation →
        h.stops b' = 1)
  | .live bs => ∀ b ∈ bs, b ∈ h.built ∧ h.stops b = 0

inductive Lawful : History → Prop
  | nil : Lawful []
  | snoc {h : History} {o : Occurrence} : Lawful h → h.Allowed o → Lawful (h ++ [o])

variable {h : History} {b : Badge}

@[simp] theorem built_append (h k : History) : built (h ++ k) = built h ++ built k :=
  List.filterMap_append

@[simp] theorem stops_append (b : Badge) (h k : History) :
    stops b (h ++ k) = stops b h + stops b k :=
  List.countP_append

theorem Lawful.allowed {before after : History} {o : Occurrence}
    (h : Lawful (before ++ o :: after)) : before.Allowed o := by
  generalize heq : before ++ o :: after = whole at h
  induction h generalizing after with
  | nil => simp at heq
  | @snoc k o' hk ho ih =>
    rcases List.eq_nil_or_concat after with rfl | ⟨init, last, rfl⟩
    · obtain ⟨rfl, hlast⟩ := List.append_inj' heq rfl
      cases hlast
      exact ho
    · have hinit : (before ++ o :: init) ++ [last] = k ++ [o'] := by
        rw [← heq, List.append_assoc, List.cons_append, List.concat_eq_append]
      exact ih (List.append_inj' hinit rfl).1

theorem Lawful.stops_eq_zero (h' : Lawful h) (hb : b ∉ h.built) : h.stops b = 0 := by
  induction h' with
  | nil => rfl
  | @snoc k o hk ho ih =>
    rw [built_append, List.mem_append, not_or] at hb
    rw [stops_append, ih hb.1, Nat.zero_add]
    cases o with
    | stopped b' n =>
      have hne : b' ≠ b := fun heq => hb.1 (heq ▸ ho.1)
      simp [stops, hne]
    | built b' => rfl
    | called b' n => rfl
    | live bs => rfl

theorem Lawful.nodup_built (h' : Lawful h) : h.built.Nodup := by
  induction h' with
  | nil => exact List.nodup_nil
  | @snoc k o hk ho ih =>
    rw [built_append]
    cases o with
    | built b =>
      refine List.nodup_append'.2 ⟨ih, List.nodup_singleton b, ?_⟩
      exact List.disjoint_singleton.2 ho.1
    | stopped b n => simpa [built] using ih
    | called b n => simpa [built] using ih
    | live bs => simpa [built] using ih

theorem running_append (b : Badge) (h k : History) :
    running b (h ++ k) = k.foldl (tell b) (running b h) :=
  List.foldl_append

theorem running_of_silent {k : History} (hk : ∀ o ∈ k, ∀ n, tell b n o = n) :
    running b (h ++ k) = running b h := by
  rw [running_append]
  generalize running b h = n
  induction k generalizing n with
  | nil => rfl
  | cons o k ih =>
    rw [List.foldl_cons, hk o List.mem_cons_self]
    exact ih (fun o' ho' => hk o' (List.mem_cons_of_mem o ho')) n

theorem running_builtAll (bs : List Badge) : running b (h ++ bs.map .built) = running b h := by
  apply running_of_silent
  intro o ho n
  obtain ⟨b', -, rfl⟩ := List.mem_map.1 ho
  rfl

theorem running_live (bs : List Badge) : running b (h ++ [.live bs]) = running b h := by
  apply running_of_silent
  intro o ho n
  rw [List.mem_singleton.1 ho]
  rfl

section

variable {α : Type} (badge : α → Badge) (count : α → Nat)

theorem running_calledAll_of_notMem {ls : List α} (hb : b ∉ ls.map badge) :
    running b (h ++ ls.map fun l => .called (badge l) (count l)) = running b h := by
  apply running_of_silent
  intro o ho n
  obtain ⟨l, hl, rfl⟩ := List.mem_map.1 ho
  have hne : badge l ≠ b := fun heq => hb (List.mem_map.2 ⟨l, hl, heq⟩)
  rw [tell, if_neg hne]

theorem running_calledAll {ls : List α} (hnodup : (ls.map badge).Nodup) {l : α} (hl : l ∈ ls) :
    running (badge l) (h ++ ls.map fun l => .called (badge l) (count l)) = count l := by
  induction ls generalizing h with
  | nil => cases hl
  | cons first ls ih =>
    obtain ⟨hnot, hrest⟩ := List.nodup_cons.1 hnodup
    rw [List.map_cons, ← List.singleton_append, ← List.append_assoc]
    rcases List.mem_cons.1 hl with rfl | hl
    · rw [running_calledAll_of_notMem badge count hnot, running_append]
      exact if_pos rfl
    · exact ih hrest hl

end

theorem running_stoppedAll_of_notMem {bs : List Badge} (hb : b ∉ bs) :
    running b (h ++ bs.map (.stopped · 0)) = running b h := by
  apply running_of_silent
  intro o ho n
  obtain ⟨b', hb', rfl⟩ := List.mem_map.1 ho
  have hne : b' ≠ b := fun heq => hb (heq ▸ hb')
  rw [tell, if_neg hne]

theorem running_stoppedAll {bs : List Badge} (hb : b ∈ bs ∨ running b h = 0) :
    running b (h ++ bs.map (.stopped · 0)) = 0 := by
  induction bs generalizing h with
  | nil =>
    rw [List.map_nil, List.append_nil]
    exact hb.resolve_left List.not_mem_nil
  | cons b' bs ih =>
    rw [List.map_cons, ← List.singleton_append, ← List.append_assoc]
    apply ih
    have hstop : running b (h ++ [.stopped b' 0]) = if b' = b then 0 else running b h := by
      rw [running_append]
      rfl
    rw [hstop]
    by_cases heq : b' = b
    · exact .inr (if_pos heq)
    · rw [if_neg heq]
      exact hb.imp_left fun hmem => (List.mem_cons.1 hmem).resolve_left fun h => heq h.symm

end History

end QueryWatch
