import QueryWatch.Proofs.Monitor.Acknowledgments
import QueryWatch.Proofs.Monitor.Sequential

namespace QueryWatch.Sink

/-- Whether a peer takes a message and acknowledges it, on the connection that is held or on a new one. -/
structure Reaction.Acknowledges (r : Reaction) (held : Option (List Read)) : Prop where
  connects : held = none → r.connect = none
  written : r.write = none
  acknowledged : ∃ body rest, Acknowledged (content (held.getD [] ++ r.reads)) body rest

namespace Endpoint

variable {e : Endpoint} {r : Reaction}

theorem connect_held {unread : List Read} (h : e.connection = some unread) :
    e.connect r = .ok unread := by
  simp only [connect, h]

theorem connect_refused {fault : Fault} (hr : e.resolved = true) (h : e.connection = none)
    (hf : r.connect = some fault) : e.connect r = .error fault := by
  simp only [connect, h, hr, hf, if_true]

theorem connect_opened (hr : e.resolved = true) (h : e.connection = none) (hf : r.connect = none) :
    e.connect r = .ok [] := by
  simp only [connect, h, hr, hf, if_true]

/-- What an attempt is and what it leaves. -/
structure Sent (r : Reaction) (frame : List UInt8) (e : Endpoint) (a : Attempt) (e' : Endpoint) :
    Prop where
  frame : a.frame = frame
  fresh : a.fresh = e.connection.isNone
  held : e'.connection.isSome = a.fault.isNone
  acknowledged : a.fault = none ↔ r.Acknowledges e.connection
  resolved : e'.resolved = true
  attempts : e'.attempts = e.attempts + 1

theorem sent_of_connect {unread : List Read} {frame : List UInt8} (hr : e.resolved = true)
    (hc : e.connect r = .ok unread) (hheld : e.connection.getD [] = unread)
    (hconnect : e.connection = none → r.connect = none) :
    Sent r frame e (e.send (fun _ => r) frame).1 (e.send (fun _ => r) frame).2 := by
  have hiff : (∃ left, exchange r unread = .ok left) ↔ r.Acknowledges e.connection := by
    rw [exchange_eq_ok_iff, ← hheld]
    constructor
    · rintro ⟨hw, hack⟩
      exact ⟨hconnect, hw, hack⟩
    · intro h
      exact ⟨h.written, h.acknowledged⟩
  cases hx : exchange r unread with
  | error fault =>
    have hno : ¬r.Acknowledges e.connection := by
      rw [← hiff, hx]
      rintro ⟨left, hleft⟩
      cases hleft
    rw [send_of_exchange_error hc hx]
    exact ⟨rfl, rfl, rfl, by simp [hno], hr, rfl⟩
  | ok left =>
    have hyes : r.Acknowledges e.connection := hiff.1 ⟨left, hx⟩
    rw [send_of_exchange_ok hc hx]
    exact ⟨rfl, rfl, rfl, by simp [hyes], hr, rfl⟩

theorem sent (hr : e.resolved = true) (peer : Nat → Reaction) (frame : List UInt8) :
    Sent (peer e.attempts) frame e (e.send peer frame).1 (e.send peer frame).2 := by
  generalize hpeer : peer e.attempts = r
  have hsend : e.send peer frame = e.send (fun _ => r) frame := by
    rw [← hpeer]
    rfl
  rw [hsend]
  cases hheld : e.connection with
  | some unread =>
    apply sent_of_connect hr (connect_held hheld)
    · rw [hheld]
      rfl
    · rw [hheld]
      intro hnone
      cases hnone
  | none =>
    cases hconnect : r.connect with
    | none =>
      apply sent_of_connect hr (connect_opened hr hheld hconnect)
      · rw [hheld]
        rfl
      · intro _
        exact hconnect
    | some fault =>
      have hno : ¬r.Acknowledges e.connection := by
        intro h
        have hnone := h.connects hheld
        rw [hconnect] at hnone
        cases hnone
      rw [send_of_connect_error (connect_refused hr hheld hconnect)]
      exact ⟨rfl, rfl, rfl, by simp [hno], hr, rfl⟩

end Endpoint

namespace MonitorSink

/-- A sink that was not stopped and has a peer with an address. -/
structure Ready (s : MonitorSink) (e : Endpoint) : Prop where
  endpoint : s.endpoint = some e
  resolved : e.resolved = true
  running : s.stopped = false

def connection (s : MonitorSink) : Option (List Read) :=
  s.endpoint.bind Endpoint.connection

def attempts (m : Measurement) (s : MonitorSink) : List Attempt :=
  match s.endpoint, s.stopped with
  | some e, false => (attempt s.peer (s.frame m) tries e).1
  | _, _ => []

/-- The ways that a report can go. -/
inductive Course (s : MonitorSink) (m : Measurement) (e : Endpoint) : List Attempt → Endpoint → Prop
  | once {a : Attempt} {e₁ : Endpoint} (first : Endpoint.Sent (s.peer e.attempts) (s.frame m) e a e₁)
      (succeeded : a.fault = none) : Course s m e [a] e₁
  | again {a b : Attempt} {e₁ e₂ : Endpoint}
      (first : Endpoint.Sent (s.peer e.attempts) (s.frame m) e a e₁) (failed : a.fault ≠ none)
      (second : Endpoint.Sent (s.peer (e.attempts + 1)) (s.frame m) e₁ b e₂) :
      Course s m e [a, b] e₂

variable {s : MonitorSink} {e : Endpoint}

theorem Ready.course (h : s.Ready e) (m : Measurement) :
    ∃ e', s.Course m e (s.attempts m) e' ∧
      s.report m =
        { unit := { s with endpoint := some e' }, signals := tell s.kind m.name (s.attempts m) } := by
  refine ⟨(attempt s.peer (s.frame m) tries e).2, ?_, ?_⟩
  · have hattempts : s.attempts m = (attempt s.peer (s.frame m) tries e).1 := by
      simp only [attempts, h.endpoint, h.running]
    rw [hattempts, attempt_tries]
    have hfirst := Endpoint.sent h.resolved s.peer (s.frame m)
    generalize e.send s.peer (s.frame m) = first at hfirst ⊢
    obtain ⟨a, e₁⟩ := first
    cases ha : a.fault with
    | none =>
      simp only [ha, Option.isNone_none, if_true]
      exact .once hfirst ha
    | some fault =>
      have hsecond := Endpoint.sent hfirst.resolved s.peer (s.frame m)
      rw [hfirst.attempts] at hsecond
      simp only [ha, Option.isNone_some, Bool.false_eq_true, if_false]
      exact .again hfirst (by rw [ha]; simp) hsecond
  · simp only [report, attempts, h.endpoint, h.running]

namespace Course

variable {m : Measurement} {as : List Attempt} {e' : Endpoint}

theorem resolved (h : s.Course m e as e') : e'.resolved = true := by
  cases h with
  | once first _ => exact first.resolved
  | again _ _ second => exact second.resolved

theorem attempts (h : s.Course m e as e') :
    (∃ a, as = [a] ∧ a.fault = none) ∨ ∃ a b, as = [a, b] ∧ a.fault ≠ none := by
  cases h with
  | @once a _ _ succeeded => exact .inl ⟨a, rfl, succeeded⟩
  | @again a b _ _ _ failed _ => exact .inr ⟨a, b, rfl, failed⟩

theorem seen (h : s.Course m e as e') : e'.attempts = e.attempts + as.length := by
  cases h with
  | once first _ => exact first.attempts
  | again first _ second => rw [second.attempts, first.attempts]; rfl

theorem frame (h : s.Course m e as e') : ∀ a ∈ as, a.frame = s.frame m := by
  cases h with
  | once first _ => exact List.forall_mem_singleton.2 first.frame
  | again first _ second =>
    exact List.forall_mem_cons.2 ⟨first.frame, List.forall_mem_singleton.2 second.frame⟩

theorem first (h : s.Course m e as e') {a : Attempt} (ha : as[0]? = some a) :
    a.fresh = e.connection.isNone ∧
      (a.fault = none ↔ (s.peer e.attempts).Acknowledges e.connection) := by
  cases h with
  | once first _ =>
    cases ha
    exact ⟨first.fresh, first.acknowledged⟩
  | again first _ _ =>
    cases ha
    exact ⟨first.fresh, first.acknowledged⟩

theorem second (h : s.Course m e as e') {b : Attempt} (hb : as[1]? = some b) :
    b.fresh = true ∧ (b.fault = none ↔ (s.peer (e.attempts + 1)).Acknowledges none) := by
  cases h with
  | once _ _ => cases hb
  | @again a _ e₁ _ first failed second =>
    cases hb
    have hreleased : e₁.connection = none := by
      have hheld : e₁.connection.isSome = true ↔ a.fault = none := by
        rw [first.held, Option.isNone_iff_eq_none]
      exact Option.not_isSome_iff_eq_none.1 fun hsome => failed (hheld.1 hsome)
    rw [second.fresh, second.acknowledged, hreleased]
    exact ⟨rfl, .rfl⟩

theorem last (h : s.Course m e as e') :
    ∃ made a, as = made ++ [a] ∧ (∀ b ∈ made, b.fault ≠ none) ∧
      (e'.connection.isSome ↔ a.fault = none) := by
  cases h with
  | @once a _ first _ =>
    refine ⟨[], a, rfl, List.forall_mem_nil _, ?_⟩
    rw [first.held, Option.isNone_iff_eq_none]
  | @again a b _ _ _ failed second =>
    refine ⟨[a], b, rfl, List.forall_mem_singleton.2 failed, ?_⟩
    rw [second.held, Option.isNone_iff_eq_none]

end Course

/-- Attempts in their order, from a connection that is held or not to one that is held or not. -/
inductive Trail : Bool → List Attempt → Bool → Prop
  | nil (held : Bool) : Trail held [] held
  | cons {held held' : Bool} {a : Attempt} {as : List Attempt} (fresh : a.fresh = !held)
      (rest : Trail a.fault.isNone as held') : Trail held (a :: as) held'

theorem Trail.append {held held' held'' : Bool} {as bs : List Attempt} (h : Trail held as held')
    (h' : Trail held' bs held'') : Trail held (as ++ bs) held'' := by
  induction h with
  | nil => exact h'
  | cons fresh _ ih => exact .cons fresh (ih h')

theorem Course.trail {m : Measurement} {as : List Attempt} {e' : Endpoint} (h : s.Course m e as e') :
    Trail e.connection.isSome as e'.connection.isSome := by
  cases h with
  | once first _ =>
    refine .cons ?_ ?_
    · rw [first.fresh, Option.not_isSome]
    · rw [first.held]
      exact .nil _
  | again first _ second =>
    refine .cons ?_ (.cons ?_ ?_)
    · rw [first.fresh, Option.not_isSome]
    · rw [second.fresh, ← first.held, Option.not_isSome]
    · rw [second.held]
      exact .nil _

/-- Attempts with the numbers of their connections: one that is fresh has the next number. -/
def numbered : Nat → List Attempt → List (Nat × Attempt)
  | _, [] => []
  | n, a :: as =>
    let n := if a.fresh then n + 1 else n
    (n, a) :: numbered n as

theorem le_of_mem_numbered {n : Nat} {as : List Attempt} {x : Nat × Attempt}
    (h : x ∈ numbered n as) : n ≤ x.1 := by
  induction as generalizing n with
  | nil => cases h
  | cons a as ih =>
    have hle : n ≤ if a.fresh then n + 1 else n := by
      split
      · exact Nat.le_succ n
      · exact Nat.le_refl n
    rcases List.mem_cons.1 h with rfl | h
    · exact hle
    · exact Nat.le_trans hle (ih h)

theorem Trail.lt_of_mem {n : Nat} {held : Bool} {as : List Attempt} {x : Nat × Attempt}
    (h : Trail false as held) (hx : x ∈ numbered n as) : n < x.1 := by
  cases h with
  | nil => cases hx
  | cons fresh rest =>
    simp only [numbered, fresh, Bool.not_false, if_true] at hx
    rcases List.mem_cons.1 hx with rfl | hx
    · exact Nat.lt_succ_self n
    · exact le_of_mem_numbered hx

/-- After an attempt that failed, its connection is not used again. -/
theorem Trail.pairwise {held held' : Bool} {as : List Attempt} (h : Trail held as held') (n : Nat) :
    (numbered n as).Pairwise fun x y => x.1 = y.1 → x.2.fault = none := by
  induction h generalizing n with
  | nil => exact .nil
  | @cons held held' a as fresh rest ih =>
    refine .cons ?_ (ih _)
    intro y hy hsame
    cases ha : a.fault with
    | none => rfl
    | some fault =>
      rw [ha] at rest
      exact absurd hsame (Nat.ne_of_lt (rest.lt_of_mem hy))

structure Round where
  sink : MonitorSink
  measurement : Measurement
  attempts : List Attempt
  turn : Turn MonitorSink

/-- Reports of some measurements, each on the sink that the one before has left. -/
def rounds : List Measurement → MonitorSink → List Round
  | [], _ => []
  | m :: ms, s => ⟨s, m, s.attempts m, s.report m⟩ :: rounds ms (s.report m).unit

structure Round.Tried (r : Round) (e : Endpoint) : Prop where
  endpoint : r.sink.endpoint = some e
  attempts : (∃ a, r.attempts = [a] ∧ a.fault = none) ∨
    ∃ a b, r.attempts = [a, b] ∧ a.fault ≠ none
  frame : ∀ a ∈ r.attempts, a.frame = r.sink.frame r.measurement
  first : ∀ a, r.attempts[0]? = some a → (a.fresh = true ↔ r.sink.connection = none) ∧
    (a.fault = none ↔ (r.sink.peer e.attempts).Acknowledges r.sink.connection)
  second : ∀ a, r.attempts[1]? = some a → a.fresh = true ∧
    (a.fault = none ↔ (r.sink.peer (e.attempts + 1)).Acknowledges none)
  held : r.turn.unit.connection.isSome ↔ ∃ a, r.attempts.getLast? = some a ∧ a.fault = none
  seen : ∃ e', r.turn.unit = { r.sink with endpoint := some e' } ∧
    e'.attempts = e.attempts + r.attempts.length
  counted : tally (.reports r.sink.kind) r.turn.signals +
    tally (.reportFailures r.sink.kind) r.turn.signals = 1
  reports : tally (.reports r.sink.kind) r.turn.signals = 1 ↔ ∃ a ∈ r.attempts, a.fault = none
  others : ∀ c, c ≠ .reports r.sink.kind → c ≠ .reportFailures r.sink.kind →
    tally c r.turn.signals = 0
  panicked : r.turn.panicked = false

theorem tally_tell_failures (kind name : String) (made : List Attempt) (a : Attempt) :
    tally (.reportFailures kind) (tell kind name (made ++ [a])) = if a.fault.isNone then 0 else 1 := by
  obtain ⟨frame, fresh, fault⟩ := a
  cases fault <;> simp [tell]

theorem tally_tell_others {kind : String} {c : Counter} (hc : c ≠ .reports kind)
    (hc' : c ≠ .reportFailures kind) (name : String) (made : List Attempt) :
    tally c (tell kind name made) = 0 := by
  unfold tell
  split
  · simp [hc'.symm]
  · simp [hc.symm]
  · rfl

theorem Ready.tried (h : s.Ready e) (m : Measurement) :
    Round.Tried ⟨s, m, s.attempts m, s.report m⟩ e := by
  obtain ⟨e', hcourse, hreport⟩ := h.course m
  obtain ⟨made, a, hlast, hfailed, hheld⟩ := hcourse.last
  have hconnection : s.connection = e.connection := by
    rw [connection, h.endpoint]
    rfl
  have hsucceeded : (∃ b ∈ s.attempts m, b.fault = none) ↔ a.fault = none := by
    rw [hlast]
    constructor
    · rintro ⟨b, hb, hnone⟩
      rcases List.mem_append.1 hb with hb | hb
      · exact absurd hnone (hfailed b hb)
      · rw [← List.mem_singleton.1 hb]
        exact hnone
    · intro hnone
      exact ⟨a, List.mem_append_right made (List.mem_singleton_self a), hnone⟩
  have hreports : tally (.reports s.kind) (s.report m).signals = if a.fault.isNone then 1 else 0 := by
    rw [hreport, hlast]
    exact Dialogue.tally_tell s.kind m.name made a
  have hfailures : tally (.reportFailures s.kind) (s.report m).signals =
      if a.fault.isNone then 0 else 1 := by
    rw [hreport, hlast]
    exact tally_tell_failures s.kind m.name made a
  exact
    { endpoint := h.endpoint
      attempts := hcourse.attempts
      frame := hcourse.frame
      first := by
        intro b hb
        rw [hconnection, (hcourse.first hb).1, Option.isNone_iff_eq_none]
        exact ⟨.rfl, (hcourse.first hb).2⟩
      second := fun _ hb => hcourse.second hb
      held := by
        simp only [hreport, connection, Option.bind_some, hheld, hlast, List.getLast?_concat,
          Option.some.injEq, exists_eq_left']
      seen := ⟨e', by rw [hreport], hcourse.seen⟩
      counted := by
        simp only [hreports, hfailures]
        split <;> rfl
      reports := by
        simp only [hreports, hsucceeded]
        cases a.fault <;> simp
      others := by
        intro c hc hc'
        rw [hreport]
        exact tally_tell_others hc hc' m.name _
      panicked := by rw [hreport] }

theorem Ready.report (h : s.Ready e) (m : Measurement) :
    ∃ e', (s.report m).unit.Ready e' ∧ Trail e.connection.isSome (s.attempts m) e'.connection.isSome ∧
      (s.report m).unit.kind = s.kind := by
  obtain ⟨e', hcourse, hreport⟩ := h.course m
  refine ⟨e', ?_, hcourse.trail, ?_⟩
  · rw [hreport]
    exact ⟨rfl, hcourse.resolved, h.running⟩
  · rw [hreport]

structure Persistent (s : MonitorSink) (ms : List Measurement) (rs : List Round) : Prop where
  measurements : rs.map (·.measurement) = ms
  start : ∀ r, rs[0]? = some r → r.sink = s
  follows : ∀ (i : Nat) (r r' : Round), rs[i]? = some r → rs[i + 1]? = some r' → r'.sink = r.turn.unit
  tried : ∀ r ∈ rs, ∃ e, r.Tried e
  /-- A connection is used by later attempts only where the exchanges on it have succeeded. -/
  connections : (numbered 0 (rs.flatMap (·.attempts))).Pairwise
    fun x y => x.1 = y.1 → x.2.fault = none
  counted : tally (.reports s.kind) (rs.flatMap (·.turn.signals)) +
    tally (.reportFailures s.kind) (rs.flatMap (·.turn.signals)) = ms.length

theorem Ready.trail (h : s.Ready e) (ms : List Measurement) :
    ∃ held, Trail e.connection.isSome ((rounds ms s).flatMap (·.attempts)) held := by
  induction ms generalizing s e with
  | nil => exact ⟨_, .nil _⟩
  | cons m ms ih =>
    obtain ⟨e', hnext, htrail, -⟩ := h.report m
    obtain ⟨held, hrest⟩ := ih hnext
    exact ⟨held, htrail.append hrest⟩

theorem Ready.tried_of_mem (h : s.Ready e) {ms : List Measurement} {r : Round}
    (hr : r ∈ rounds ms s) : ∃ e', r.Tried e' := by
  induction ms generalizing s e with
  | nil => cases hr
  | cons m ms ih =>
    rcases List.mem_cons.1 hr with rfl | hr
    · exact ⟨e, h.tried m⟩
    · obtain ⟨e', hnext, -, -⟩ := h.report m
      exact ih hnext hr

theorem Ready.counted (h : s.Ready e) (ms : List Measurement) :
    tally (.reports s.kind) ((rounds ms s).flatMap (·.turn.signals)) +
      tally (.reportFailures s.kind) ((rounds ms s).flatMap (·.turn.signals)) = ms.length := by
  induction ms generalizing s e with
  | nil => rfl
  | cons m ms ih =>
    obtain ⟨e', hnext, -, hkind⟩ := h.report m
    have hone := (h.tried m).counted
    have hmore := ih hnext
    rw [hkind] at hmore
    simp only [rounds, List.flatMap_cons, tally_append, List.length_cons]
    simp only at hone
    omega

theorem measurements_rounds (ms : List Measurement) (s : MonitorSink) :
    (rounds ms s).map (·.measurement) = ms := by
  induction ms generalizing s with
  | nil => rfl
  | cons m ms ih => rw [rounds, List.map_cons, ih]

theorem sink_of_head_rounds {ms : List Measurement} {s : MonitorSink} {r : Round}
    (h : (rounds ms s)[0]? = some r) : r.sink = s := by
  cases ms with
  | nil => cases h
  | cons m ms =>
    cases h
    rfl

theorem rounds_follow {ms : List Measurement} {s : MonitorSink} {i : Nat} {r r' : Round}
    (h : (rounds ms s)[i]? = some r) (h' : (rounds ms s)[i + 1]? = some r') :
    r'.sink = r.turn.unit := by
  induction ms generalizing s i with
  | nil => cases h
  | cons m ms ih =>
    cases i with
    | zero =>
      cases h
      exact sink_of_head_rounds h'
    | succ i => exact ih h h'

/-- Each report is tried once, and once more on a new connection if that fails, whatever the peer does and
however many reports there are; a connection on which an exchange has failed is not used again. -/
theorem retries_bounded (h : s.Ready e) (ms : List Measurement) : Persistent s ms (rounds ms s) := by
  obtain ⟨held, htrail⟩ := h.trail ms
  exact
    { measurements := measurements_rounds ms s
      start := fun _ hr => sink_of_head_rounds hr
      follows := fun _ _ _ hr hr' => rounds_follow hr hr'
      tried := fun _ hr => h.tried_of_mem hr
      connections := htrail.pairwise 0
      counted := h.counted ms }

/-- A peer that says no, then yes, then nothing, then sends a length that is too great, and then refuses
connections. -/
def fickle : Nat → Reaction
  | 0 => { reads := [.bytes (framed [16, 0])] }
  | 1 => { reads := [.bytes (framed [16, 1])] }
  | 2 => {}
  | 3 => { reads := [.bytes [255, 255, 255, 255]] }
  | _ => { connect := some .transfer }

def fickleSink : MonitorSink where
  kind := "monitor"
  hostname := "here"
  ttl := ⟨0⟩
  state := "ok"
  endpoint := some { host := "localhost", resolved := true }
  peer := fickle

/-- The first report is acknowledged at its second attempt, the next one loses that connection and the one
after it. -/
theorem retries_bounded_fickle :
    let ms := List.replicate 3 (Measurement.complex "load" 0 .seconds ∅ ∅)
    fickleSink.Ready { host := "localhost", resolved := true } ∧
      Persistent fickleSink ms (rounds ms fickleSink) ∧
      (rounds ms fickleSink).map (fun r => r.attempts.map fun a => (a.fresh, a.fault)) =
        [[(true, some (.refused none)), (true, none)],
          [(false, some .timeout), (true, some (.oversized 4294967295))],
          [(true, some .transfer), (true, some .transfer)]] := by
  have h : fickleSink.Ready { host := "localhost", resolved := true } := ⟨rfl, rfl, rfl⟩
  exact ⟨h, retries_bounded h _, by decide +kernel⟩

end MonitorSink

end QueryWatch.Sink
