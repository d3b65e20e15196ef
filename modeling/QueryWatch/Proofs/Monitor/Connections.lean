import QueryWatch.Proofs.Monitor.Dialogue

namespace QueryWatch.Sink.MonitorSink

/-- Nothing is to come on a connection, and nothing has come that was not taken. -/
structure Connection.Settled (c : Connection) : Prop where
  unanswered : c.unanswered = []
  taken : c.taken = (stream c.sent).length

theorem Connection.settled_fresh : Connection.Settled {} :=
  ⟨rfl, rfl⟩

namespace Connection

theorem Settled.answer {c : Connection} (h : c.Settled) (a : Answer) : c.answer a = c := by
  simp [Connection.answer, h.unanswered]

theorem sent_answer (c : Connection) (a : Answer) : c.sent <+: (c.answer a).sent := by
  unfold answer
  split
  · exact List.prefix_refl _
  · exact List.prefix_append _ _

theorem sent_answers (c : Connection) (answers : List Answer) :
    c.sent <+: (answers.foldl answer c).sent := by
  induction answers generalizing c with
  | nil => exact List.prefix_refl _
  | cons a rest ih => exact (c.sent_answer a).trans (ih _)

theorem taken_answers (answers : List Answer) (c : Connection) :
    (answers.foldl answer c).taken = c.taken := by
  induction answers generalizing c with
  | nil => rfl
  | cons a rest ih =>
    rw [List.foldl_cons, ih, answer]
    split <;> rfl

theorem foldl_answer_nil (answers : List Answer) {c : Connection} (h : c.unanswered = []) :
    answers.foldl answer c = c := by
  induction answers with
  | nil => rfl
  | cons a rest ih =>
    have hsame : c.answer a = c := by simp [answer, h]
    rw [List.foldl_cons, hsame, ih]

theorem foldl_answer_one (answers : List Answer) {c : Connection} {n : Nat}
    (h : c.unanswered = [n]) :
    (answers.foldl answer c).sent = c.sent ∨
      ∃ a : Ack, a.attempt = n ∧ (answers.foldl answer c).sent = c.sent ++ [a] ∧
        (answers.foldl answer c).unanswered = [] := by
  induction answers with
  | nil => exact .inl rfl
  | cons a rest ih =>
    rw [List.foldl_cons]
    cases hp : a.passedOver with
    | zero =>
      have hsent : c.answer a =
          { c with unanswered := [], sent := c.sent ++ [⟨n, a.body, a.fits⟩] } := by
        simp [answer, h, hp]
      rw [hsent, foldl_answer_nil rest rfl]
      exact .inr ⟨_, rfl, rfl, rfl⟩
    | succ k =>
      have hsame : c.answer a = c := by
        simp [answer, h, hp]
      rw [hsame]
      exact ih

theorem Settled.alter {c : Connection} (h : c.Settled) (w : Circumstance) (n : Nat) :
    (w.alter n c).taken = (stream c.sent).length ∧
      ((w.alter n c).sent = c.sent ∨
        ∃ a : Ack, a.attempt = n ∧ (w.alter n c).sent = c.sent ++ [a] ∧
          (w.alter n c).unanswered = []) := by
  unfold Circumstance.alter
  refine ⟨?_, ?_⟩
  · rw [taken_answers]
    split
    · exact h.taken
    · exact h.taken
  · split
    · have hone : (c.receive n).unanswered = [n] := by
        rw [receive, h.unanswered, List.nil_append]
      exact foldl_answer_one w.answers hone
    · rw [foldl_answer_nil w.answers h.unanswered]
      exact .inl rfl

end Connection

theorem Circumstance.sent_alter (w : Circumstance) (n : Nat) (c : Connection) :
    c.sent <+: (w.alter n c).sent := by
  unfold alter
  split
  · exact (c.receive n).sent_answers w.answers
  · exact c.sent_answers w.answers

/-- What came on a connection that was settled, and was read with success, is the one acknowledgment. -/
theorem one_acknowledgment {c : Connection} {w : Circumstance} {n : Nat} (h : c.Settled)
    {ending : Ending} {reads rest : List Read}
    (hcame : content reads <+: (w.alter n c).untaken) (hread : readAck ending reads = .ok rest) :
    ∃ a : Ack, a.attempt = n ∧ verdict a.body = .ok () ∧ (w.alter n c).sent = c.sent ++ [a] ∧
      (w.alter n c).unanswered = [] ∧ content reads = framed a.body ∧ content rest = [] := by
  obtain ⟨body, hverdict, hlong, hcontent⟩ := content_of_readAck hread
  obtain ⟨htaken, hsent⟩ := h.alter w n
  rw [Connection.untaken, htaken, hcontent] at hcame
  rcases hsent with hsame | ⟨a, ha, hsent, hnone⟩
  · rw [hsame, List.drop_length, List.prefix_nil] at hcame
    have hlen := congrArg List.length hcame
    simp at hlen
  · have hdrop : (stream (c.sent ++ [a])).drop (stream c.sent).length = framed a.body := by
      simp [stream]
    rw [hsent, hdrop] at hcame
    have hbody : body = a.body := by
      refine framed_prefix ?_ a.fits ((List.prefix_append _ _).trans hcame)
      exact Nat.lt_of_le_of_lt hlong (by decide)
    subst hbody
    have hrest : content rest = [] := by
      have hle := hcame.length_le
      rw [List.length_append] at hle
      exact List.eq_nil_of_length_eq_zero (by omega)
    refine ⟨a, ha, hverdict, hsent, hnone, ?_, hrest⟩
    rw [hcontent, hrest, List.append_nil]

def Extends (before after : List Connection) : Prop :=
  ∀ (i : Nat) (c : Connection), before[i]? = some c →
    ∃ c', after[i]? = some c' ∧ c.sent <+: c'.sent

theorem Extends.refl (cs : List Connection) : Extends cs cs :=
  fun _ c h => ⟨c, h, List.prefix_refl _⟩

theorem Extends.append (cs more : List Connection) : Extends cs (cs ++ more) := by
  intro i c h
  refine ⟨c, ?_, List.prefix_refl _⟩
  rw [List.getElem?_append_left (List.getElem?_eq_some_iff.1 h).1]
  exact h

theorem Extends.modify (cs : List Connection) (j : Nat) (a : Answer) :
    Extends cs (cs.modify j (·.answer a)) := by
  intro i c h
  rw [List.getElem?_modify, h]
  by_cases hj : j = i
  · exact ⟨c.answer a, by simp [hj], c.sent_answer a⟩
  · exact ⟨c, by simp [hj], List.prefix_refl _⟩

theorem Extends.appendRight {before after : List Connection} (h : Extends before after)
    (hlen : after.length = before.length) (more : List Connection) :
    Extends (before ++ more) (after ++ more) := by
  intro i c hc
  by_cases hi : i < before.length
  · rw [List.getElem?_append_left hi] at hc
    rw [List.getElem?_append_left (by omega)]
    exact h i c hc
  · rw [List.getElem?_append_right (by omega)] at hc
    rw [List.getElem?_append_right (by omega), hlen]
    exact ⟨c, hc, List.prefix_refl _⟩

theorem Extends.last (past : List Connection) {current : Option Connection} {c : Connection}
    (h : (current.getD {}).sent <+: c.sent) :
    Extends (past ++ current.toList) (past ++ [c]) := by
  cases current with
  | none =>
    rw [Option.toList_none, List.append_nil]
    exact .append past [c]
  | some c₀ =>
    intro i c₁ hc
    by_cases hi : i < past.length
    · rw [List.getElem?_append_left hi] at hc ⊢
      exact ⟨c₁, hc, List.prefix_refl _⟩
    · rw [List.getElem?_append_right (by omega)] at hc ⊢
      cases hk : i - past.length with
      | zero =>
        rw [hk] at hc
        cases hc
        exact ⟨c, rfl, h⟩
      | succ k =>
        rw [hk] at hc
        cases hc

/-- An attempt took the acknowledgment of its own frame, a positive one, off a connection. -/
structure Took (x : Exchanged) (c : Connection) (a : Ack) : Prop where
  own : a.attempt = x.number
  positive : verdict a.body = .ok ()
  place : ∃ before after, c.sent = before ++ a :: after ∧
    x.start = (stream before).length ∧ x.stop = x.start + (framed a.body).length

theorem Took.mono {x : Exchanged} {c c' : Connection} {a : Ack} (h : Took x c a)
    (hc : c.sent <+: c'.sent) : Took x c' a := by
  obtain ⟨before, after, hsent, hstart, hstop⟩ := h.place
  obtain ⟨more, hmore⟩ := hc
  refine ⟨h.own, h.positive, before, after ++ more, ?_, hstart, hstop⟩
  rw [← hmore, hsent, List.append_assoc, List.cons_append]

def Confirmed (cs : List Connection) (x : Exchanged) : Prop :=
  ∃ i c a, x.connection = some i ∧ cs[i]? = some c ∧ Took x c a

theorem Confirmed.mono {before after : List Connection} {x : Exchanged} (h : Confirmed before x)
    (hc : Extends before after) : Confirmed after x := by
  obtain ⟨i, c, a, hi, hget, htook⟩ := h
  obtain ⟨c', hget', hsent⟩ := hc i c hget
  exact ⟨i, c', a, hi, hget', htook.mono hsent⟩

end QueryWatch.Sink.MonitorSink
