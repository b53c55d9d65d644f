import QueryScan.Proofs.Spans

/-! The ends of a session. An error is final, and so is the end of the source, whatever is asked or
switched afterwards; the sequence of tokens has an end of its own. An error is logged when it is
found and not when it is given again. -/
namespace QueryScan

/-- The diagnostics in an answer. -/
def Answer.taken : Answer → List Diagnostic
  | .log entries => entries
  | _ => []

theorem Mode.pragma_change (m : Mode) (what : ModeChange) :
    (m.change what).pragma = m.pragma := by
  cases what with
  | element on =>
      cases on with
      | true => rfl
      | false =>
          simp only [change, leaveElement]
          split <;> rfl
  | leaveAttribute =>
      simp only [change, leaveAttribute]
      split <;> rfl
  | enterAttribute | blanks | strings => rfl

theorem Mode.pragma_onToken (m : Mode) (k : Kind) :
    (m.onToken k).pragma =
      if k = .pragmaStart then true else if k = .pragmaEnd then false else m.pragma := by
  rcases m with ⟨context, pragma, blanks, strings⟩
  cases k with
  | symbol sign => cases sign <;> cases context <;> rfl
  | _ => rfl

namespace Scanner

/-- All diagnostics of a session: those that were taken out of the log, and those still in it. -/
def emitted (s : Scanner) (actions : List Action) : List Diagnostic :=
  ((s.session actions).flatMap fun r => r.1.taken) ++ (s.after actions).log.entries

/-- What holds behind one reply and is kept by every request relates that reply to all later
ones. -/
theorem session_pairwise {Q : Answer × Scanner → Scanner → Prop}
    {R : Answer × Scanner → Answer × Scanner → Prop}
    (enters : ∀ (s : Scanner) a r, s.Reply a r.1 r.2 → Q r r.2)
    (each : ∀ first (s : Scanner) a r, Q first s → s.Reply a r.1 r.2 → Q first r.2 ∧ R first r)
    (s : Scanner) (actions : List Action) : (s.session actions).Pairwise R := by
  induction actions generalizing s with
  | nil => exact .nil
  | cons a rest ih =>
      refine List.pairwise_cons.mpr ⟨?_, ih (s.act a).2⟩
      exact forall_session (each (s.act a)) (enters s a (s.act a) (s.reply_act a)) rest

/-! ### Errors -/

theorem next_failure (s : Scanner) :
    s.next.2.failure = s.failure.or (Answer.token s.next.1).error? := by
  rcases next_cases s with ⟨e, failed, same⟩ | ⟨sound, gap, t, s', gives, same⟩ |
    ⟨sound, gap, cause, e, s', fails, same⟩
  · rw [same, failed]; rfl
  · rw [same, gives.after, sound]; rfl
  · rw [same, fails.after, sound]; rfl

theorem Reply.failure {s s' : Scanner} {a : Action} {answer : Answer} (h : s.Reply a answer s') :
    s'.failure = s.failure.or answer.error? := by
  have behind := next_failure s
  cases h with
  | next called => rwa [called] at behind
  | pulled _ called _ => rwa [called] at behind
  | ended _ called _ => rwa [called] at behind
  | failed _ called => rwa [called] at behind
  | spent | change | errors | takeLog => exact Option.or_none.symm

/-- An error that is given is the failure behind the reply, whether it is new or not. -/
theorem Reply.failure_of_error {s s' : Scanner} {a : Action} {answer : Answer} {e : LexError}
    (h : s.Reply a answer s') (given : answer.error? = some e) : s'.failure = some e := by
  rw [h.failure, given]
  cases known : s.failure with
  | none => rfl
  | some e' =>
      have again := h.error given
      rw [next_of_failure known] at again
      cases again
      rfl

/-- The scanner has failed with `e`, and its cursor stands at `c` since. -/
structure Failed (e : LexError) (c : Cursor) (s : Scanner) : Prop where
  failure : s.failure = some e
  cursor : s.cursor = c

theorem Failed.reply {s s' : Scanner} {a : Action} {answer : Answer} {e : LexError} {c : Cursor}
    (h : s.Failed e c) (reply : s.Reply a answer s') : s'.Failed e c := by
  refine reply.keeps ?_ ?_ ?_ h
  · intro s h
    rw [next_of_failure h.failure]
    exact h
  · intro s what h
    exact ⟨h.failure, h.cursor⟩
  · intro s spent log h
    exact ⟨h.failure, h.cursor⟩

/-- Behind an error there is no token and no other error, and the cursor stays. -/
def ErrorFinal (earlier later : Answer × Scanner) : Prop :=
  ∀ e, earlier.1.error? = some e →
    later.1.token? = none ∧ (∀ e', later.1.error? = some e' → e' = e) ∧
      later.2.cursor = earlier.2.cursor

theorem session_errorFinal (s : Scanner) (actions : List Action) :
    (s.session actions).Pairwise ErrorFinal := by
  refine session_pairwise
    (Q := fun first s => ∀ e, first.1.error? = some e → s.Failed e first.2.cursor) ?_ ?_ s actions
  · intro s a r reply e given
    exact ⟨reply.failure_of_error given, rfl⟩
  · intro first s a r entered reply
    refine ⟨fun e given => (entered e given).reply reply, ?_⟩
    intro e given
    have failed := entered e given
    refine ⟨?_, ?_, (failed.reply reply).cursor⟩
    · cases token : r.1.token? with
      | none => rfl
      | some t =>
          have called := reply.token token
          rw [next_of_failure failed.failure] at called
          cases called
    · intro e' later
      have called := reply.error later
      rw [next_of_failure failed.failure] at called
      cases called
      rfl

/-! ### The end of the source -/

/-- Nothing is ahead and no pragma is open, so `t` is all that can come. -/
structure Ended (t : Token) (s : Scanner) : Prop where
  sound : s.failure = none
  rest : s.cursor.rest = []
  outside : s.mode.pragma = false
  token : t = tokenAt s.cursor .eof 0

theorem Ended.next {s : Scanner} {t : Token} (h : s.Ended t) : s.next = (.ok t, s) := by
  have found : Scan.step s.mode s.cursor.rest = .token .eof 0 := by
    rw [h.rest, Scan.step, Scan.endStep, h.outside]
    rfl
  rw [next_of_token h.sound (settle_of_token found), ← h.token]
  rfl

theorem ended_of_next {s s' : Scanner} {t : Token} (called : s.next = (.ok t, s'))
    (eof : t.isEof = true) : s'.Ended t := by
  obtain ⟨gap, gives⟩ := gives_of_next called
  obtain ⟨kind, text, rest⟩ := gives.ended eof
  have sound : s.failure = none := by
    cases known : s.failure with
    | none => rfl
    | some e =>
        rw [next_of_failure known] at called
        cases called
  have outside : s.mode.pragma = false := by
    have permitted := gives.permitted
    rw [kind] at permitted
    simpa [Mode.permits] using permitted
  have after := gives.after
  rw [kind, text] at after
  have span := gives.span
  rw [text] at span
  subst after
  refine ⟨sound, rest, outside, ?_⟩
  obtain ⟨k, w, extent⟩ := t
  have empty : w = "" := String.toList_eq_nil_iff.mp text
  subst kind empty span
  rfl

theorem Ended.reply {s s' : Scanner} {a : Action} {answer : Answer} {t : Token} (h : s.Ended t)
    (reply : s.Reply a answer s') : s'.Ended t := by
  refine reply.keeps ?_ ?_ ?_ h
  · intro s h
    rw [h.next]
    exact h
  · intro s what h
    exact ⟨h.sound, h.rest, (s.mode.pragma_change what).trans h.outside, h.token⟩
  · intro s spent log h
    exact ⟨h.sound, h.rest, h.outside, h.token⟩

/-- Behind the token of the end every call gives that token, and the sequence has no item. -/
def EofFinal (earlier later : Answer × Scanner) : Prop :=
  ∀ t, earlier.1 = .token (.ok t) → t.isEof = true →
    (∀ result, later.1 = .token result → result = .ok t) ∧
      ∀ item, later.1 = .item item → item = none

theorem session_eofFinal (s : Scanner) (actions : List Action) :
    (s.session actions).Pairwise EofFinal := by
  refine session_pairwise
    (Q := fun first s => ∀ t, first.1 = .token (.ok t) → t.isEof = true → s.Ended t) ?_ ?_ s actions
  · intro s a r reply t given eof
    refine ended_of_next (reply.token ?_) eof
    rw [given]
    rfl
  · intro first s a r entered reply
    refine ⟨fun t given eof => (entered t given eof).reply reply, ?_⟩
    intro t given eof
    have called := (entered t given eof).next
    obtain ⟨answer, s'⟩ := r
    refine ⟨?_, ?_⟩
    · rintro result rfl
      cases reply with
      | next same =>
          rw [called] at same
          cases same
          rfl
    · rintro item rfl
      cases reply with
      | spent | ended => rfl
      | pulled _ same more =>
          rw [called] at same
          cases same
          rw [eof] at more
          contradiction
      | failed _ same =>
          rw [called] at same
          cases same

/-- The token of the end covers nothing, and stands at the end of the source. -/
theorem eof_span {source : String} {s s' : Scanner} {t : Token} (placed : s'.cursor.In source.toList)
    (called : s.next = (.ok t, s')) (eof : t.isEof = true) :
    t.text = "" ∧ t.span.start = source.utf8ByteSize ∧ t.span.stop = source.utf8ByteSize := by
  have ended := ended_of_next called eof
  have offset : s'.cursor.place.offset = source.utf8ByteSize := by
    rw [← placed.offset_end, ended.rest, Text.byteLength_nil, Nat.add_zero]
  rw [ended.token]
  refine ⟨?_, offset, offset⟩
  rw [tokenAt, ended.rest]
  rfl

/-! ### The sequence of tokens -/

theorem next_exhausted (s : Scanner) : s.next.2.exhausted = s.exhausted := by
  rcases next_cases s with ⟨e, -, same⟩ | ⟨-, gap, t, s', gives, same⟩ |
    ⟨-, gap, cause, e, s', fails, same⟩
  · rw [same]
  · rw [same, gives.after]
  · rw [same, fails.after]

theorem Reply.exhausted {s s' : Scanner} {a : Action} {answer : Answer}
    (h : s.Reply a answer s') (spent : s.exhausted = true) : s'.exhausted = true := by
  cases h with
  | next called =>
      have same := next_exhausted s
      rw [called] at same
      exact same.trans spent
  | spent | change | errors | takeLog => exact spent
  | pulled fresh =>
      rw [spent] at fresh
      contradiction
  | ended | failed => rfl

theorem Reply.item_eq_none {s s' : Scanner} {a : Action} {item : Option (Except LexError Token)}
    (h : s.Reply a (.item item) s') (spent : s.exhausted = true) : item = none := by
  cases h with
  | spent | ended => rfl
  | pulled fresh | failed fresh =>
      rw [spent] at fresh
      contradiction

/-- Behind an error or its end the sequence has no item. -/
def ItemFinal (earlier later : Answer × Scanner) : Prop :=
  earlier.1 = .item none ∨ (∃ e, earlier.1 = .item (some (.error e))) →
    ∀ item, later.1 = .item item → item = none

theorem session_itemFinal (s : Scanner) (actions : List Action) :
    (s.session actions).Pairwise ItemFinal := by
  refine session_pairwise (Q := fun first s =>
    first.1 = .item none ∨ (∃ e, first.1 = .item (some (.error e))) → s.exhausted = true)
    ?_ ?_ s actions
  · intro s a r reply last
    obtain ⟨answer, s'⟩ := r
    rcases last with rfl | ⟨e, rfl⟩
    · cases reply with
      | spent spent => exact spent
      | ended => rfl
    · cases reply with
      | failed => rfl
  · intro first s a r entered reply
    refine ⟨fun last => reply.exhausted (entered last), ?_⟩
    intro last item same
    rw [same] at reply
    exact reply.item_eq_none (entered last)

/-! ### The log -/

/-- The errors of an answer that the scanner has not met before. -/
def newErrors (s : Scanner) (answer : Answer) : List LexError :=
  match s.failure with
  | some _ => []
  | none => answer.error?.toList

theorem next_log (s : Scanner) :
    s.next.2.log.entries =
      s.log.entries ++ (s.newErrors (.token s.next.1)).map LexError.diagnostic := by
  rcases next_cases s with ⟨e, failed, same⟩ | ⟨sound, gap, t, s', gives, same⟩ |
    ⟨sound, gap, cause, e, s', fails, same⟩
  · rw [same, newErrors, failed]
    exact (List.append_nil _).symm
  · rw [same, newErrors, sound, gives.after]
    exact (List.append_nil _).symm
  · rw [same, newErrors, sound, fails.after]
    rfl

/-- A request that is no call moves entries from the log to the answer, or leaves them. -/
theorem Reply.log {s s' : Scanner} {a : Action} {answer : Answer} (h : s.Reply a answer s') :
    answer.taken ++ s'.log.entries =
      s.log.entries ++ (s.newErrors answer).map LexError.diagnostic := by
  have behind := next_log s
  have quiet : ∀ answer : Answer, answer.error? = none → s.newErrors answer = [] := by
    intro answer none
    rw [newErrors, none]
    split <;> rfl
  cases h with
  | next called => rwa [called] at behind
  | pulled _ called _ => rwa [called] at behind
  | @ended t _ _ called _ =>
      rw [called, quiet (.token (.ok t)) rfl] at behind
      rw [quiet (.item none) rfl]
      exact behind
  | failed _ called => rwa [called] at behind
  | spent | change | errors => rw [quiet _ rfl]; exact (List.append_nil _).symm
  | takeLog => rw [quiet _ rfl]; rfl

/-- Only the first error of a session is logged, and that once. -/
theorem emitted_eq (s : Scanner) (actions : List Action) :
    s.emitted actions =
      s.log.entries ++
        match s.failure with
        | some _ => []
        | none =>
          ((s.session actions).findSome? fun r => r.1.error?).toList.map LexError.diagnostic := by
  induction actions generalizing s with
  | nil => cases s.failure <;> simp [emitted, session, after]
  | cons a rest ih =>
      have reply := s.reply_act a
      have first : s.emitted (a :: rest) = (s.act a).1.taken ++ (s.act a).2.emitted rest := by
        rw [emitted, emitted, session, after, List.flatMap_cons, List.append_assoc]
      rw [first, ih, ← List.append_assoc, reply.log, reply.failure, List.append_assoc, newErrors,
        session, List.findSome?_cons]
      cases s.failure with
      | some e => rfl
      | none => cases (s.act a).1.error? <;> rfl

/-- Errors and the end are final, the sequence of tokens ends once, and of all that is asked only
the first error leaves a diagnostic. -/
theorem session_outcomes (source : String) (m : Mode) (actions : List Action) :
    ((Scanner.ofText source m).session actions).Pairwise ErrorFinal ∧
      ((Scanner.ofText source m).session actions).Pairwise EofFinal ∧
      (∀ r ∈ (Scanner.ofText source m).session actions, ∀ t, r.1.token? = some t →
        t.isEof = true →
          t.text = "" ∧ t.span.start = source.utf8ByteSize ∧ t.span.stop = source.utf8ByteSize) ∧
      ((Scanner.ofText source m).session actions).Pairwise ItemFinal ∧
      (Scanner.ofText source m).emitted actions =
        (((Scanner.ofText source m).session actions).findSome? fun r => r.1.error?).toList.map
          fun e => { message := e.headline, span := e.span, code := some e.code,
                     helps := e.help?.toList } := by
  refine ⟨session_errorFinal _ _, session_eofFinal _ _, ?_, session_itemFinal _ _, ?_⟩
  · refine forall_session (I := fun s => s.cursor.In source.toList) ?_ (.ofText source) actions
    intro s a r placed reply
    have behind := reply.placed placed
    refine ⟨behind, ?_⟩
    intro t given eof
    exact eof_span behind (reply.token given) eof
  · exact emitted_eq _ _

theorem session_outcomes_comment :
    ∃ e, ((Scanner.ofText "(:").session [.next, .takeLog, .change (.blanks true), .pull]).map
        (fun r => r.1.error?) = [some e, none, none, some e] ∧
      (Scanner.ofText "(:").emitted [.next, .takeLog, .change (.blanks true), .pull] =
        [{ message := e.headline, span := e.span, code := some e.code,
           helps := e.help?.toList }] := by
  have called := next_of_fault (s := Scanner.ofText "(:") rfl (settle_of_fault rfl)
  have answers : ((Scanner.ofText "(:").session
      [.next, .takeLog, .change (.blanks true), .pull]).map (fun r => r.1.error?) =
        [some (.unterminated .comment ⟨0, 2, 1, 1⟩), none, none,
          some (.unterminated .comment ⟨0, 2, 1, 1⟩)] := by
    simp only [session, act, called]
    rfl
  have first : (((Scanner.ofText "(:").session
      [.next, .takeLog, .change (.blanks true), .pull]).findSome? fun r => r.1.error?) =
        some (.unterminated .comment ⟨0, 2, 1, 1⟩) := by
    have found := congrArg (List.findSome? id) answers
    rwa [List.findSome?_map] at found
  obtain ⟨-, -, -, -, log⟩ :=
    session_outcomes "(:" {} [.next, .takeLog, .change (.blanks true), .pull]
  rw [first] at log
  exact ⟨_, answers, log⟩

end Scanner

end QueryScan
