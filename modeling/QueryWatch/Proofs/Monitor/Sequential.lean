import QueryWatch.Proofs.Monitor.Ownership

namespace QueryWatch.Sink.MonitorSink

/-- What comes in an attempt is an acknowledgment, or as much of one as has come in time. -/
def Honest (r : Reaction) : Prop :=
  ∃ body : List UInt8, body.length < UInt32.size ∧ content r.reads <+: framed body

theorem Connection.Settled.untaken_alter {c : Connection} (h : c.Settled) (r : Reaction) (n : Nat)
    {body : List UInt8} (hfits : body.length < UInt32.size) :
    (Circumstance.alter ⟨r, true, [⟨0, body, hfits⟩]⟩ n c).untaken = framed body := by
  have hsent : Circumstance.alter ⟨r, true, [⟨0, body, hfits⟩]⟩ n c =
      { c with sent := c.sent ++ [⟨n, body, hfits⟩] } := by
    simp [Circumstance.alter, Connection.receive, Connection.answer, h.unanswered]
  rw [hsent, Connection.untaken, h.taken]
  simp [stream]

theorem attempt_tries (peer : Nat → Reaction) (frame : List UInt8) (e : Endpoint) :
    attempt peer frame tries e =
      let (a, e₁) := e.send peer frame
      if a.fault.isNone then ([a], e₁)
      else
        let (b, e₂) := e₁.send peer frame
        ([a, b], e₂) := by
  simp only [tries, attempt]
  split
  · rfl
  · split <;> rfl

namespace Dialogue

variable {d : Dialogue} {e : Endpoint}

/-- Some run of steps does to the sink what an operation of it does. -/
def Does (d : Dialogue) (turn : Turn MonitorSink) : Prop :=
  ∃ schedule, (run schedule d).sink = turn.unit ∧
    (run schedule d).shown = d.shown ++ turn.signals

theorem Inv.attempt_honest (h : Inv d e) {k left : Nat} {m : Measurement} {made : List Attempt}
    (hk : d.calls[k]? = some (.trying m (left + 1) made)) (hp : Honest (d.sink.peer e.attempts)) :
    ∃ w d', Inv d' (e.send d.sink.peer (d.sink.frame m)).2 ∧
      d'.sink = { d.sink with endpoint := some (e.send d.sink.peer (d.sink.frame m)).2 } ∧
      d'.calls = d.calls ∧ d'.shown = d.shown ∧
      d.attempt k w =
        d'.conclude k m left (made ++ [(e.send d.sink.peer (d.sink.frame m)).1]) := by
  obtain ⟨body, hfits, hprefix⟩ := hp
  let w : Circumstance :=
    { reaction := d.sink.peer e.attempts, received := true, answers := [⟨0, body, hfits⟩] }
  have hsend : e.send (fun _ => w.reaction) (d.sink.frame m) =
      e.send d.sink.peer (d.sink.frame m) := rfl
  cases hc : e.connect w.reaction with
  | error fault =>
    let d' := d.fail e w (d.sink.frame m)
    have hinv : Inv d' (e.send d.sink.peer (d.sink.frame m)).2 := by
      rw [← hsend, Endpoint.send_of_connect_error hc]
      exact h.fail hc
    refine ⟨w, d', hinv, rfl, rfl, rfl, ?_⟩
    simp only [Dialogue.attempt, hk, h.endpoint, hc]
    rfl
  | ok unread =>
    let c := w.alter e.attempts (d.current.getD {})
    have hcame : content (unread ++ w.reaction.reads) <+: c.untaken := by
      rw [content_append, h.unread_content hc, List.nil_append,
        h.settled_getD.untaken_alter (d.sink.peer e.attempts) e.attempts hfits]
      exact hprefix
    let d' := d.exchange e w (d.sink.frame m) c (content (unread ++ w.reaction.reads)).length
    have hsink : d'.sink =
        { d.sink with endpoint := some (e.send d.sink.peer (d.sink.frame m)).2 } :=
      exchange_sink ..
    obtain ⟨e', hinv⟩ : ∃ e', Inv d' e' := h.exchange hc hcame
    have he' : e' = (e.send d.sink.peer (d.sink.frame m)).2 := by
      have hendpoint := hinv.endpoint
      rw [show _ = d'.sink from rfl, hsink] at hendpoint
      exact (Option.some.inj hendpoint).symm
    subst he'
    refine ⟨w, d', hinv, hsink, (exchange_calls ..).1, (exchange_calls ..).2, ?_⟩
    simp only [Dialogue.attempt, hk, h.endpoint, hc]
    rw [if_pos (List.isPrefixOf_iff_prefix.2 hcame)]
    rfl

theorem report_passed (h : Inv d e) (hs : d.sink.stopped = true) (m : Measurement) :
    Does d (d.sink.report m) := by
  let k := d.calls.length
  let d₁ : Dialogue := { d with calls := d.calls ++ [.reporting m] }
  have hk : d₁.calls[k]? = some (.reporting m) := List.getElem?_concat_length
  refine ⟨[.report m, .call k], ?_⟩
  have hpass : next (.call k) d₁ = d₁.put k .ended := by
    simp only [next, advance, hk, enter, d₁, hs, if_true]
  have hreport : d.sink.report m = { unit := d.sink } := by
    simp only [MonitorSink.report, h.endpoint, hs]
  change (next (.call k) d₁).sink = _ ∧ (next (.call k) d₁).shown = _
  rw [hpass, hreport, List.append_nil]
  exact ⟨rfl, rfl⟩

theorem report_tried (h : Inv d e) (hs : d.sink.stopped = false)
    (hpeer : ∀ n, Honest (d.sink.peer n)) (m : Measurement) : Does d (d.sink.report m) := by
  let k := d.calls.length
  let d₁ : Dialogue := { d with calls := d.calls ++ [.reporting m] }
  have hk : d₁.calls[k]? = some (.reporting m) := List.getElem?_concat_length
  let d₂ : Dialogue := d₁.put k (.trying m tries [])
  have henter : next (.call k) d₁ = d₂ := by
    simp only [next, advance, hk, enter, d₁, d₂, hs, Bool.false_eq_true, if_false]
  have hk₂ : d₂.calls[k]? = some (.trying m tries []) := by
    simp [d₂, d₁, put, k]
  have h₂ : Inv d₂ e := { h with }
  obtain ⟨w, d₃, h₃, hsink₃, hcalls₃, hshown₃, hstep₃⟩ :=
    h₂.attempt_honest hk₂ (hpeer e.attempts)
  change Inv d₃ (e.send d.sink.peer (d.sink.frame m)).2 at h₃
  change d₃.sink = { d.sink with endpoint := some (e.send d.sink.peer (d.sink.frame m)).2 } at hsink₃
  change d₂.attempt k w = d₃.conclude k m 1 ([] ++ [(e.send d.sink.peer (d.sink.frame m)).1]) at hstep₃
  have hreport : d.sink.report m =
      let r := MonitorSink.attempt d.sink.peer (d.sink.frame m) tries e
      { unit := { d.sink with endpoint := some r.2 }, signals := tell d.sink.kind m.name r.1 } := by
    simp only [MonitorSink.report, h.endpoint, hs]
  rw [hreport, attempt_tries]
  generalize e.send d.sink.peer (d.sink.frame m) = first at *
  obtain ⟨a, e₁⟩ := first
  cases ha : a.fault.isNone with
  | true =>
    refine ⟨[.report m, .call k, .attempt k w], ?_⟩
    change (next (.attempt k w) (next (.call k) d₁)).sink = _ ∧
      (next (.attempt k w) (next (.call k) d₁)).shown = _
    rw [henter, next, hstep₃, conclude_last (.inl ha)]
    simp only [ha, if_true, hsink₃, hshown₃]
    exact ⟨trivial, rfl⟩
  | false =>
    let d₄ : Dialogue := d₃.put k (.trying m 1 [a])
    have hretry : d₂.attempt k w = d₄ := by
      rw [hstep₃, conclude_retry ha]
      rfl
    have hk₄ : d₄.calls[k]? = some (.trying m 1 [a]) := by
      simp [d₄, put, hcalls₃, d₂, d₁, k]
    have hpeer₄ : d₄.sink.peer = d.sink.peer := by
      simp only [d₄, put, hsink₃]
    have hframe₄ : d₄.sink.frame m = d.sink.frame m := by
      simp only [d₄, put, hsink₃]
      rfl
    have h₄ : Inv d₄ e₁ := { h₃ with }
    obtain ⟨w₂, d₅, -, hsink₅, -, hshown₅, hstep₅⟩ :=
      h₄.attempt_honest hk₄ (hpeer₄ ▸ hpeer e₁.attempts)
    rw [hpeer₄, hframe₄] at hsink₅ hstep₅
    refine ⟨[.report m, .call k, .attempt k w, .attempt k w₂], ?_⟩
    change (next (.attempt k w₂) (next (.attempt k w) (next (.call k) d₁))).sink = _ ∧
      (next (.attempt k w₂) (next (.attempt k w) (next (.call k) d₁))).shown = _
    rw [henter, next, next, hretry, hstep₅, conclude_last (.inr rfl)]
    simp only [ha, Bool.false_eq_true, if_false, hsink₅, hshown₅, d₄, put, hsink₃, hshown₃]
    exact ⟨trivial, rfl⟩

theorem report_alone (h : Inv d e) (hpeer : ∀ n, Honest (d.sink.peer n)) (m : Measurement) :
    Does d (d.sink.report m) := by
  cases hs : d.sink.stopped with
  | true => exact report_passed h hs m
  | false => exact report_tried h hs hpeer m

theorem stop_alone (h : Inv d e) (hc : d.sink.stopped = true → e.connection = none) :
    Does d d.sink.stop := by
  let k := d.calls.length
  let d₁ : Dialogue := { d with calls := d.calls ++ [.stopping] }
  have hk : d₁.calls[k]? = some .stopping := List.getElem?_concat_length
  cases hs : d.sink.stopped with
  | true =>
    refine ⟨[.stop, .call k], ?_⟩
    have hmark : next (.call k) d₁ = d₁.put k .ended := by
      simp only [next, advance, hk, mark, d₁, hs, if_true]
    have hclose : e.close = e := by
      rw [Endpoint.close, ← hc hs]
    have hstop : d.sink.stop.unit = d.sink := by
      simp only [MonitorSink.stop, h.endpoint, Option.map_some, hclose]
      rw [← hs, ← h.endpoint]
    change (next (.call k) d₁).sink = _ ∧ (next (.call k) d₁).shown = _
    rw [hmark, hstop]
    exact ⟨rfl, (List.append_nil _).symm⟩
  | false =>
    refine ⟨[.stop, .call k, .call k], ?_⟩
    let d₂ : Dialogue := { d₁.put k .closing with sink := { d.sink with stopped := true } }
    have hmark : next (.call k) d₁ = d₂ := by
      simp only [next, advance, hk, mark, d₁, d₂, hs, Bool.false_eq_true, if_false]
    have hk₂ : d₂.calls[k]? = some .closing := by
      simp [d₂, d₁, put, k]
    have hclose : next (.call k) d₂ = d₂.close k := by
      simp only [next, advance, hk₂]
    change (next (.call k) (next (.call k) d₁)).sink = _ ∧
      (next (.call k) (next (.call k) d₁)).shown = _
    rw [hmark, hclose]
    exact ⟨rfl, (List.append_nil _).symm⟩

end Dialogue

end QueryWatch.Sink.MonitorSink
