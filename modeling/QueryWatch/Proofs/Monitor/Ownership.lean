import QueryWatch.Proofs.Monitor.Connections

namespace QueryWatch.Sink

namespace Endpoint

variable {e : Endpoint} {r : Reaction} {frame : List UInt8}

theorem connection_of_connect_error {fault : Fault} (h : e.connect r = .error fault) :
    e.connection = none := by
  unfold connect at h
  split at h
  · cases h
  · next hc => exact hc

theorem connection_of_connect_ok {unread : List Read} (h : e.connect r = .ok unread) :
    e.connection = some unread ∨ e.connection = none ∧ unread = [] := by
  unfold connect at h
  split at h
  · next hc =>
    cases h
    exact .inl hc
  · next hc =>
    refine .inr ⟨hc, ?_⟩
    split at h
    · split at h
      · cases h
      · cases h
        rfl
    · cases h

theorem readAck_of_exchange {unread rest : List Read} (h : exchange r unread = .ok rest) :
    readAck r.ending (unread ++ r.reads) = .ok rest := by
  unfold exchange at h
  split at h
  · cases h
  · exact h

theorem send_of_connect_error {fault : Fault} (h : e.connect r = .error fault) :
    e.send (fun _ => r) frame =
      (⟨frame, e.connection.isNone, some fault⟩,
        { e with connection := none, attempts := e.attempts + 1 }) := by
  simp only [send, h, bind, Except.bind]

theorem send_of_exchange_error {unread : List Read} {fault : Fault}
    (h : e.connect r = .ok unread) (hx : exchange r unread = .error fault) :
    e.send (fun _ => r) frame =
      (⟨frame, e.connection.isNone, some fault⟩,
        { e with connection := none, attempts := e.attempts + 1 }) := by
  simp only [send, h, hx, bind, Except.bind]

theorem send_of_exchange_ok {unread rest : List Read} (h : e.connect r = .ok unread)
    (hx : exchange r unread = .ok rest) :
    e.send (fun _ => r) frame =
      (⟨frame, e.connection.isNone, none⟩,
        { e with connection := some rest, attempts := e.attempts + 1 }) := by
  simp only [send, h, hx, bind, Except.bind]

end Endpoint

namespace MonitorSink.Dialogue

/-- What holds between any two steps of a sink whose connection is that of `e`. -/
structure Inv (d : Dialogue) (e : Endpoint) : Prop where
  endpoint : d.sink.endpoint = some e
  numbers : d.made.map (·.number) = List.range e.attempts
  held : e.connection.isSome = d.current.isSome
  unread : ∀ reads, e.connection = some reads → content reads = []
  settled : ∀ c, d.current = some c → c.Settled
  confirmed : ∀ x ∈ d.made, x.attempt.fault = none → Confirmed d.connections x

variable {d : Dialogue} {e : Endpoint}

theorem inv_opened (s : MonitorSink) (host : String) (resolved : Bool) :
    Inv (opened s host resolved) { host, resolved } where
  endpoint := rfl
  numbers := rfl
  held := rfl
  unread := fun _ h => by cases h
  settled := fun _ h => by cases h
  confirmed := fun _ h => by cases h

theorem Inv.enter (h : Inv d e) (k : Nat) (m : Measurement) : Inv (d.enter k m) e := by
  unfold Dialogue.enter
  split
  · exact { h with }
  · exact { h with }

theorem Inv.mark (h : Inv d e) (k : Nat) : Inv (d.mark k) e := by
  unfold Dialogue.mark
  split
  · exact { h with }
  · exact { h with }

theorem Inv.close (h : Inv d e) (k : Nat) : Inv (d.close k) e.close := by
  refine
    { endpoint := ?_
      numbers := h.numbers
      held := rfl
      unread := fun _ hc => by cases hc
      settled := fun _ hc => by cases hc
      confirmed := ?_ }
  · simp only [Dialogue.close, h.endpoint, Option.map_some]
  · intro x hx hok
    refine (h.confirmed x hx hok).mono ?_
    simpa [Dialogue.close, connections] using Extends.refl _

theorem Inv.advance (h : Inv d e) (k : Nat) : ∃ e', Inv (d.advance k) e' := by
  unfold Dialogue.advance
  split
  · exact ⟨e, h.enter k _⟩
  · exact ⟨e, h.mark k⟩
  · exact ⟨e.close, h.close k⟩
  · exact ⟨e, h⟩

theorem Inv.answer (h : Inv d e) (a : Answer) :
    Inv { d with current := d.current.map (·.answer a) } e := by
  have hsame : d.current.map (·.answer a) = d.current := by
    cases hc : d.current with
    | none => rfl
    | some c => rw [Option.map_some, (h.settled c hc).answer a]
  rw [hsame]
  exact h

theorem Inv.late (h : Inv d e) (i : Nat) (a : Answer) :
    Inv { d with past := d.past.modify i (·.answer a) } e := by
  refine { h with confirmed := ?_ }
  intro x hx hok
  refine (h.confirmed x hx hok).mono ?_
  exact (Extends.modify d.past i a).appendRight (List.length_modify ..) _

theorem Inv.numbers_concat (h : Inv d e) (x : Exchanged) (hx : x.number = e.attempts) :
    (d.made ++ [x]).map (·.number) = List.range (e.attempts + 1) := by
  rw [List.map_append, h.numbers, List.range_succ, List.map_singleton, hx]

theorem Inv.confirmed_concat (h : Inv d e) {cs : List Connection} (hcs : Extends d.connections cs)
    {x : Exchanged} (hx : x.attempt.fault = none → Confirmed cs x) :
    ∀ y ∈ d.made ++ [x], y.attempt.fault = none → Confirmed cs y := by
  intro y hy hok
  rcases List.mem_append.1 hy with hy | hy
  · exact (h.confirmed y hy hok).mono hcs
  · rw [List.mem_singleton.1 hy] at hok ⊢
    exact hx hok

theorem Inv.fail (h : Inv d e) {w : Circumstance} {fault : Fault} {frame : List UInt8}
    (hc : e.connect w.reaction = .error fault) :
    Inv (d.fail e w frame) { e with connection := none, attempts := e.attempts + 1 } := by
  have hnone : d.current = none := by
    have hheld := h.held
    rw [Endpoint.connection_of_connect_error hc] at hheld
    exact Option.isNone_iff_eq_none.1 (by simpa using hheld.symm)
  simp only [Dialogue.fail, Endpoint.send_of_connect_error hc]
  exact
    { endpoint := rfl
      numbers := h.numbers_concat _ rfl
      held := by rw [hnone]; rfl
      unread := fun _ he => by cases he
      settled := fun c hcur => absurd (hnone.symm.trans hcur) (by simp)
      confirmed := h.confirmed_concat (.refl _) (fun he => by cases he) }

theorem Inv.settled_getD (h : Inv d e) : (d.current.getD {}).Settled := by
  cases hc : d.current with
  | none => exact Connection.settled_fresh
  | some c => exact h.settled c hc

theorem Inv.unread_content (h : Inv d e) {r : Reaction} {unread : List Read}
    (hc : e.connect r = .ok unread) : content unread = [] := by
  rcases Endpoint.connection_of_connect_ok hc with hsome | ⟨-, rfl⟩
  · exact h.unread unread hsome
  · rfl

theorem Inv.exchange (h : Inv d e) {w : Circumstance} {unread : List Read} {frame : List UInt8}
    (hc : e.connect w.reaction = .ok unread)
    (hcame : content (unread ++ w.reaction.reads) <+:
      (w.alter e.attempts (d.current.getD {})).untaken) :
    ∃ e', Inv (d.exchange e w frame (w.alter e.attempts (d.current.getD {}))
      (content (unread ++ w.reaction.reads)).length) e' := by
  have hsettled := h.settled_getD
  obtain ⟨htaken, -⟩ := hsettled.alter w e.attempts
  have hextends (taken : Nat) : Extends d.connections
      (d.past ++ [{ w.alter e.attempts (d.current.getD {}) with taken }]) :=
    Extends.last d.past (w.sent_alter e.attempts _)
  cases hx : Endpoint.exchange w.reaction unread with
  | error fault =>
    -- Whatever may still come, comes on a connection that is not used again.
    refine ⟨{ e with connection := none, attempts := e.attempts + 1 }, ?_⟩
    simp only [Dialogue.exchange, Endpoint.send_of_exchange_error hc hx]
    refine
      { endpoint := rfl
        numbers := h.numbers_concat _ rfl
        held := rfl
        unread := fun _ he => by cases he
        settled := fun _ he => by cases he
        confirmed := h.confirmed_concat ?_ (fun he => by cases he) }
    simp only [connections, Option.toList_none, List.append_nil]
    exact hextends _
  | ok rest =>
    -- All that could come has come: the connection was settled, so there is one acknowledgment.
    refine ⟨{ e with connection := some rest, attempts := e.attempts + 1 }, ?_⟩
    obtain ⟨a, hown, hpositive, hsent, hnone, hbytes, hrest⟩ :=
      one_acknowledgment hsettled hcame (Endpoint.readAck_of_exchange hx)
    simp only [Dialogue.exchange, Endpoint.send_of_exchange_ok hc hx, Option.getD_some, hrest,
      List.length_nil, Nat.sub_zero]
    refine
      { endpoint := rfl
        numbers := h.numbers_concat _ rfl
        held := rfl
        unread := ?_
        settled := ?_
        confirmed := h.confirmed_concat ?_ fun _ => ?_ }
    · intro reads he
      cases he
      exact hrest
    · intro c he
      cases he
      refine ⟨hnone, ?_⟩
      rw [htaken, hsent, hbytes]
      simp [stream]
    · exact hextends _
    · refine ⟨d.past.length, _, a, rfl, List.getElem?_concat_length, hown, hpositive, ?_⟩
      exact ⟨(d.current.getD {}).sent, [], hsent, htaken, by rw [hbytes]⟩

theorem Inv.conclude (h : Inv d e) (k : Nat) (m : Measurement) (left : Nat)
    (made : List Attempt) : Inv (d.conclude k m left made) e := by
  unfold Dialogue.conclude
  split
  · exact { h with }
  · exact { h with }

theorem Inv.attempt (h : Inv d e) (k : Nat) (w : Circumstance) :
    ∃ e', Inv (d.attempt k w) e' := by
  unfold Dialogue.attempt
  split
  · next m left made e₀ hk he =>
    obtain rfl : e₀ = e := Option.some.inj (he.symm.trans h.endpoint)
    simp only
    split
    · next hc => exact ⟨_, (h.fail hc).conclude k m left _⟩
    · next unread hc =>
      split
      · next hcame =>
        obtain ⟨e', he'⟩ := h.exchange hc (List.isPrefixOf_iff_prefix.1 hcame)
        exact ⟨e', he'.conclude k m left _⟩
      · exact ⟨_, h⟩
  · exact ⟨e, h⟩

theorem inv_next (c : Choice) (h : Inv d e) : ∃ e', Inv (next c d) e' := by
  cases c with
  | report m => exact ⟨e, { h with }⟩
  | stop => exact ⟨e, { h with }⟩
  | call k => exact h.advance k
  | attempt k w => exact h.attempt k w
  | answer a => exact ⟨e, h.answer a⟩
  | late i a => exact ⟨e, h.late i a⟩
  | resolve resolved =>
    refine ⟨{ e with resolved }, { h with endpoint := ?_ }⟩
    simp only [next, h.endpoint, Option.map_some]

theorem inv_run (s : MonitorSink) (host : String) (resolved : Bool) (schedule : List Choice) :
    ∃ e, Inv (run schedule (opened s host resolved)) e := by
  refine Schedule.run_invariant (P := fun d => ∃ e, Inv d e) ?_ ?_ schedule
  · exact ⟨_, inv_opened s host resolved⟩
  · rintro c d ⟨e, he⟩
    exact inv_next c he

/-- As many reports are counted as attempts have succeeded. -/
def Counted (d : Dialogue) : Prop :=
  tally (.reports d.sink.kind) d.shown = d.made.countP (·.attempt.fault.isNone)

theorem exchange_sink (e : Endpoint) (w : Circumstance) (frame : List UInt8) (c : Connection)
    (came : Nat) (d : Dialogue) :
    (d.exchange e w frame c came).sink =
      { d.sink with endpoint := some (e.send (fun _ => w.reaction) frame).2 } := by
  unfold exchange
  simp only
  split <;> rfl

theorem exchange_calls (e : Endpoint) (w : Circumstance) (frame : List UInt8) (c : Connection)
    (came : Nat) (d : Dialogue) :
    (d.exchange e w frame c came).calls = d.calls ∧
      (d.exchange e w frame c came).shown = d.shown := by
  unfold exchange
  simp only
  split
  · exact ⟨rfl, rfl⟩
  · exact ⟨rfl, rfl⟩

theorem exchange_made (e : Endpoint) (w : Circumstance) (frame : List UInt8) (c : Connection)
    (came : Nat) (d : Dialogue) :
    ∃ x : Exchanged, x.attempt = (e.send (fun _ => w.reaction) frame).1 ∧
      (d.exchange e w frame c came).made = d.made ++ [x] := by
  unfold exchange
  simp only
  split
  · exact ⟨_, rfl, rfl⟩
  · exact ⟨_, rfl, rfl⟩

theorem conclude_last {k left : Nat} {m : Measurement} {made : List Attempt} {a : Attempt}
    (h : a.fault.isNone = true ∨ left = 0) :
    d.conclude k m left (made ++ [a]) =
      { d with
        calls := d.calls.set k .ended
        shown := d.shown ++ tell d.sink.kind m.name (made ++ [a]) } := by
  have hlast : ((made ++ [a]).getLast?.all (·.fault.isNone) || decide (left = 0)) = true := by
    rcases h with h | h <;> simp [h]
  simp only [conclude, hlast, if_true]

theorem conclude_retry {k left : Nat} {m : Measurement} {made : List Attempt} {a : Attempt}
    (h : a.fault.isNone = false) :
    d.conclude k m (left + 1) (made ++ [a]) = d.put k (.trying m (left + 1) (made ++ [a])) := by
  have hlast : ((made ++ [a]).getLast?.all (·.fault.isNone) || decide (left + 1 = 0)) = false := by
    simp [h]
  simp only [conclude, hlast, Bool.false_eq_true, if_false]

theorem tally_tell (kind name : String) (made : List Attempt) (a : Attempt) :
    tally (.reports kind) (tell kind name (made ++ [a])) = if a.fault.isNone then 1 else 0 := by
  obtain ⟨frame, fresh, fault⟩ := a
  cases fault <;> simp [tell]

theorem Counted.conclude (h : Counted d) {d' : Dialogue} {x : Exchanged}
    (hmade : d'.made = d.made ++ [x]) (hshown : d'.shown = d.shown)
    (hkind : d'.sink.kind = d.sink.kind) (k : Nat) (m : Measurement) (left : Nat)
    (made : List Attempt) : Counted (d'.conclude k m left (made ++ [x.attempt])) := by
  unfold Counted at h ⊢
  cases hx : x.attempt.fault.isNone with
  | true =>
    rw [conclude_last (.inl hx)]
    simp [hmade, hshown, hkind, h, tally_tell, hx]
  | false =>
    cases left with
    | zero =>
      rw [conclude_last (.inr rfl)]
      simp [hmade, hshown, hkind, h, tally_tell, hx]
    | succ left =>
      rw [conclude_retry hx]
      simp [put, hmade, hshown, hkind, h, hx]

theorem Counted.attempt (h : Counted d) (k : Nat) (w : Circumstance) :
    Counted (d.attempt k w) := by
  unfold Dialogue.attempt
  split
  · next m left made e hk he =>
    simp only
    split
    · have hmade : (d.fail e w (d.sink.frame m)).made = d.made ++ [_] := rfl
      exact h.conclude hmade rfl rfl k m left made
    · split
      · obtain ⟨x, hx, hmade⟩ := exchange_made e w (d.sink.frame m) _ _ d
        rw [← hx]
        exact h.conclude hmade (exchange_calls ..).2 (by rw [exchange_sink]) k m left made
      · exact h
  · exact h

theorem counted_next (c : Choice) (h : Counted d) : Counted (next c d) := by
  cases c with
  | call k =>
    simp only [next, advance]
    split
    · unfold Dialogue.enter
      split <;> exact h
    · unfold Dialogue.mark
      split <;> exact h
    · exact h
    · exact h
  | attempt k w => exact h.attempt k w
  | _ => exact h

/-- The account of a sink and its peer. -/
structure Accounted (d : Dialogue) (e : Endpoint) : Prop where
  endpoint : d.sink.endpoint = some e
  numbers : (d.made.map (·.number)).Nodup
  confirmed : ∀ x ∈ d.made, x.attempt.fault = none → Confirmed d.connections x
  /-- A connection that is held has nothing on it, and nothing will come. -/
  settled : ∀ reads, e.connection = some reads →
    content reads = [] ∧ ∃ c, d.current = some c ∧ c.unanswered = [] ∧ c.untaken = []
  reports : tally (.reports d.sink.kind) d.shown = d.made.countP (·.attempt.fault.isNone)

/-- Under every schedule each acknowledgment confirms the frame that it answers. -/
theorem acknowledgments_owned (s : MonitorSink) (host : String) (resolved : Bool)
    (schedule : List Choice) :
    ∃ e, Accounted (run schedule (opened s host resolved)) e := by
  obtain ⟨e, h⟩ := inv_run s host resolved schedule
  have hopened : Counted (opened s host resolved) := rfl
  have hcounted : Counted (run schedule (opened s host resolved)) :=
    Schedule.run_invariant (P := Counted) hopened (fun c _ => counted_next c) schedule
  refine ⟨e, h.endpoint, ?_, h.confirmed, ?_, hcounted⟩
  · rw [h.numbers]
    exact List.nodup_range
  · intro reads hreads
    refine ⟨h.unread reads hreads, ?_⟩
    have hheld := h.held
    rw [hreads] at hheld
    obtain ⟨c, hc⟩ := Option.isSome_iff_exists.1 hheld.symm
    obtain ⟨hunanswered, htaken⟩ := h.settled c hc
    refine ⟨c, hc, hunanswered, ?_⟩
    rw [Connection.untaken, htaken, List.drop_length]

/-- The first attempt is answered too late; the second one takes the acknowledgment of its own frame. -/
example :
    let s : MonitorSink :=
      { kind := "riemann", hostname := "here", ttl := ⟨0⟩, state := "ok", endpoint := none
        peer := fun _ => {} }
    let answer : Answer := ⟨0, [16, 1], by decide⟩
    (run
      [.report (.complex "load" 0 .seconds ∅ ∅), .call 0, .attempt 0 ⟨{}, true, []⟩,
        .late 0 answer, .attempt 0 ⟨{ reads := [.bytes (framed [16, 1])] }, true, [answer]⟩]
      (opened s "localhost" true)).made.map
        (fun x => (x.number, x.attempt.fault.isNone, x.connection, x.start, x.stop)) =
      [(0, false, some 0, 0, 0), (1, true, some 1, 0, 6)] := by
  cbv

end MonitorSink.Dialogue

end QueryWatch.Sink
