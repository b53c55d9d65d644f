import QueryScan.Proofs.Faults

/-! Pragmas are opened and closed by tokens alone. A scanner keeps two records of the open one, a
flag of its mode and the place of its start, and both say what the tokens given out so far say. A
pragma may be opened inside a pragma; then the latest start counts. Nothing is said of a scanner
that starts inside a pragma, for no token tells where that one was opened. -/
namespace QueryScan

/-- Where the token starts. -/
def Token.place (t : Token) : Place :=
  ⟨t.span.start, t.span.line, t.span.column⟩

/-- Of the tokens that open or close a pragma the latest is `p`, and it opens one. -/
def PragmaOpen (tokens : List Token) (p : Token) : Prop :=
  ∃ before behind, tokens = before ++ p :: behind ∧ p.kind = .pragmaStart ∧
    ∀ t ∈ behind, t.kind ≠ .pragmaStart ∧ t.kind ≠ .pragmaEnd

/-- Every token that closes a pragma stands behind an open one. -/
def PragmasClosed (tokens : List Token) : Prop :=
  ∀ before t behind, tokens = before ++ t :: behind → t.kind = .pragmaEnd →
    ∃ p, PragmaOpen before p

/-! ### One token more -/

theorem concat_eq_append_cons {α : Type} {l u v : List α} {x t : α}
    (h : l ++ [x] = u ++ t :: v) :
    (u = l ∧ t = x ∧ v = []) ∨ ∃ w, v = w ++ [x] ∧ l = u ++ t :: w := by
  rcases List.eq_nil_or_concat v with rfl | ⟨w, y, rfl⟩
  · obtain ⟨rfl, same⟩ := List.append_inj' h rfl
    exact .inl ⟨rfl, (List.cons.inj same).1.symm, rfl⟩
  · have longer : l ++ [x] = u ++ t :: w ++ [y] := by simpa using h
    obtain ⟨rfl, same⟩ := List.append_inj' longer rfl
    obtain rfl : x = y := (List.cons.inj same).1
    exact .inr ⟨w, List.concat_eq_append, rfl⟩

variable {tokens : List Token} {t p : Token}

theorem not_pragmaOpen_nil (p : Token) : ¬ PragmaOpen [] p := by
  rintro ⟨before, behind, split, -, -⟩
  simp at split

theorem pragmaOpen_concat :
    PragmaOpen (tokens ++ [t]) p ↔
      (t.kind = .pragmaStart ∧ p = t) ∨
        (t.kind ≠ .pragmaStart ∧ t.kind ≠ .pragmaEnd ∧ PragmaOpen tokens p) := by
  constructor
  · rintro ⟨before, behind, split, opens, quiet⟩
    rcases concat_eq_append_cons split with ⟨-, rfl, -⟩ | ⟨w, rfl, rfl⟩
    · exact .inl ⟨opens, rfl⟩
    · obtain ⟨start, stop⟩ := quiet t (by simp)
      refine .inr ⟨start, stop, before, w, rfl, opens, ?_⟩
      intro x member
      exact quiet x (List.mem_append_left _ member)
  · rintro (⟨opens, rfl⟩ | ⟨start, stop, before, behind, rfl, opens, quiet⟩)
    · exact ⟨tokens, [], rfl, opens, nofun⟩
    · refine ⟨before, behind ++ [t], by simp, opens, ?_⟩
      intro x member
      rcases List.mem_append.mp member with inside | last
      · exact quiet x inside
      · obtain rfl := List.mem_singleton.mp last
        exact ⟨start, stop⟩

theorem PragmasClosed.concat (h : PragmasClosed tokens)
    (last : t.kind = .pragmaEnd → ∃ p, PragmaOpen tokens p) : PragmasClosed (tokens ++ [t]) := by
  intro before x behind split closes
  rcases concat_eq_append_cons split with ⟨rfl, rfl, -⟩ | ⟨w, -, rfl⟩
  · exact last closes
  · exact h before x w rfl closes

/-! ### The records of a scanner -/

namespace Scanner

/-- The flag, the start and an error that blames a pragma agree with the tokens given out. -/
structure Records (tokens : List Token) (s : Scanner) : Prop where
  closed : PragmasClosed tokens
  flag : s.mode.pragma = true ↔ ∃ p, PragmaOpen tokens p
  start : ∀ p, PragmaOpen tokens p → s.pragmaStart = some p.place
  blame : ∀ span, s.failure = some (.unterminated .pragma span) →
    ∃ p, PragmaOpen tokens p ∧ p.place = ⟨span.start, span.line, span.column⟩

theorem records_ofText (source : String) {m : Mode} (outside : m.pragma = false) :
    (Scanner.ofText source m).Records [] := by
  refine ⟨?_, ?_, ?_, nofun⟩
  · intro before t behind split
    simp at split
  · constructor
    · intro inside
      rw [show (Scanner.ofText source m).mode.pragma = false from outside] at inside
      contradiction
    · rintro ⟨p, opens⟩
      exact absurd opens (not_pragmaOpen_nil p)
  · intro p opens
    exact absurd opens (not_pragmaOpen_nil p)

theorem Gives.place {s s' : Scanner} {gap : List Char} (h : s.Gives gap t s') :
    t.place = (s.cursor.forward gap.length).place := by
  rw [Token.place, h.span]
  rfl

theorem Gives.records {s s' : Scanner} {gap : List Char} (h : s.Records tokens)
    (sound : s.failure = none) (gives : s.Gives gap t s') : s'.Records (tokens ++ [t]) := by
  have mode : s'.mode = s.mode.onToken t.kind := by rw [gives.after]
  have known : s'.pragmaStart = pragmaBehind s.pragmaStart t.place t.kind := by
    rw [gives.after, gives.place]
  have failure : s'.failure = none := by rw [gives.after, ← sound]
  refine ⟨h.closed.concat ?_, ?_, ?_, ?_⟩
  · intro closes
    have permitted := gives.permitted
    rw [closes] at permitted
    exact h.flag.mp permitted
  · rw [mode, Mode.pragma_onToken]
    simp only [pragmaOpen_concat]
    by_cases start : t.kind = .pragmaStart
    · simp [start]
    · by_cases stop : t.kind = .pragmaEnd
      · simp [stop]
      · simp [start, stop, h.flag]
  · intro p opens
    rw [known]
    rcases pragmaOpen_concat.mp opens with ⟨start, rfl⟩ | ⟨start, stop, opens⟩
    · rw [start]
      rfl
    · rw [← h.start p opens]
      unfold pragmaBehind
      split
      · contradiction
      · contradiction
      · rfl
  · intro span blamed
    rw [failure] at blamed
    contradiction

/-- A pragma is only blamed where the flag is on, so its start is known. -/
theorem Fails.records {s s' : Scanner} {gap : List Char} {cause : Fault} {e : LexError}
    (h : s.Records tokens) (fails : s.Fails gap cause e s') : s'.Records tokens := by
  have mode : s'.mode = s.mode := by rw [fails.after]
  have known : s'.pragmaStart = s.pragmaStart := by rw [fails.after]
  have failure : s'.failure = some e := by rw [fails.after]
  refine ⟨h.closed, by rw [mode]; exact h.flag, by rw [known]; exact h.start, ?_⟩
  intro span blamed
  rw [failure, fails.error] at blamed
  cases cause with
  | noViable | malformedNumber | malformedReference => cases blamed
  | unterminated construct =>
      obtain ⟨rfl, rfl⟩ := LexError.unterminated.inj (Option.some.inj blamed)
      have inside := Scan.step_explained s.mode (s.cursor.forward gap.length).rest
      rw [fails.found] at inside
      obtain ⟨p, opens⟩ := h.flag.mp inside
      refine ⟨p, opens, ?_⟩
      rw [h.start p opens]
      rfl

theorem next_records {s : Scanner} (h : s.Records tokens) :
    s.next.2.Records (tokens ++ (Answer.token s.next.1).token?.toList) := by
  rcases next_cases s with ⟨e, -, same⟩ | ⟨sound, gap, t, s', gives, same⟩ |
    ⟨-, gap, cause, e, s', fails, same⟩
  · rw [same]
    simpa [Answer.token?] using h
  · rw [same]
    exact gives.records h sound
  · rw [same]
    simpa [Answer.token?] using fails.records h

/-- The records do not depend on the rest of the scanner. -/
theorem Records.congr {s s' : Scanner} (h : s.Records tokens)
    (mode : s'.mode.pragma = s.mode.pragma) (start : s'.pragmaStart = s.pragmaStart)
    (failure : s'.failure = s.failure) : s'.Records tokens :=
  ⟨h.closed, mode ▸ h.flag, start ▸ h.start, failure ▸ h.blame⟩

/-- A token that has nothing to do with pragmas may be left out at the end. -/
theorem Records.of_concat {s : Scanner} (h : s.Records (tokens ++ [t]))
    (start : t.kind ≠ .pragmaStart) (stop : t.kind ≠ .pragmaEnd) : s.Records tokens := by
  have same : ∀ p, PragmaOpen (tokens ++ [t]) p ↔ PragmaOpen tokens p := by
    intro p
    simp [pragmaOpen_concat, start, stop]
  refine ⟨?_, ?_, ?_, ?_⟩
  · intro before x behind split
    exact h.closed before x (behind ++ [t]) (by simp [split])
  · simpa only [same] using h.flag
  · simpa only [same] using h.start
  · simpa only [same] using h.blame

theorem Records.reply {s s' : Scanner} {a : Action} {answer : Answer} (h : s.Records tokens)
    (reply : s.Reply a answer s') : s'.Records (tokens ++ answer.token?.toList) := by
  have behind := next_records h
  have kept : s.Records (tokens ++ []) := by rwa [List.append_nil]
  cases reply with
  | next called => rwa [called] at behind
  | pulled _ called _ => rwa [called] at behind
  | failed _ called =>
      rw [called] at behind
      exact behind.congr rfl rfl rfl
  | @ended t s' _ called last =>
      have kind : t.kind = .eof := by simpa [Token.isEof] using last
      rw [called] at behind
      have less := behind.of_concat (by simp [kind]) (by simp [kind])
      rw [← List.append_nil tokens] at less
      exact less.congr rfl rfl rfl
  | change what => exact kept.congr (s.mode.pragma_change what) rfl rfl
  | spent | errors | takeLog => exact kept.congr rfl rfl rfl

/-! ### Sessions -/

/-- The tokens that the session gives out. -/
def returned (s : Scanner) (actions : List Action) : List Token :=
  (s.session actions).filterMap fun r => r.1.token?

theorem returned_cons (s : Scanner) (a : Action) (rest : List Action) :
    s.returned (a :: rest) = (s.act a).1.token?.toList ++ (s.act a).2.returned rest := by
  rw [returned, session, List.filterMap_cons]
  cases (s.act a).1.token? <;> rfl

theorem Records.after {s : Scanner} (h : s.Records tokens) (actions : List Action) :
    (s.after actions).Records (tokens ++ s.returned actions) := by
  induction actions generalizing s tokens with
  | nil =>
      rw [returned, session, List.filterMap_nil, List.append_nil]
      exact h
  | cons a rest ih =>
      rw [returned_cons, ← List.append_assoc]
      exact ih (h.reply (s.reply_act a))

/-- From outside a pragma, whatever is asked: a pragma is closed only where one is open, the flag
tells whether one is, the end is given only where none is, and an open one is blamed from the start
of the token that opened it last. -/
theorem session_pragmas (source : String) (m : Mode) (outside : m.pragma = false)
    (actions : List Action) (s : Scanner) (start : s = Scanner.ofText source m) :
    (∀ before t behind, s.returned actions = before ++ t :: behind → t.kind = .pragmaEnd →
        ∃ p, PragmaOpen before p) ∧
      ((s.after actions).mode.pragma = true ↔ ∃ p, PragmaOpen (s.returned actions) p) ∧
      (∀ a t, ((s.after actions).act a).1.token? = some t → t.isEof = true →
        (s.after actions).mode.pragma = false) ∧
      ∀ a span, ((s.after actions).act a).1.error? = some (.unterminated .pragma span) →
        (s.after actions).mode.pragma = true ∧
          ∃ p, PragmaOpen (s.returned actions) p ∧ span.start = p.span.start ∧
            span.line = p.span.line ∧ span.column = p.span.column := by
  have records : (s.after actions).Records (s.returned actions) := by
    rw [start]
    exact (records_ofText source outside).after actions
  refine ⟨records.closed, records.flag, ?_, ?_⟩
  · intro a t given eof
    obtain ⟨gap, gives⟩ := gives_of_next (((s.after actions).reply_act a).token given)
    have permitted := gives.permitted
    rw [(gives.ended eof).1] at permitted
    simpa [Mode.permits] using permitted
  · intro a span given
    have reply := (s.after actions).reply_act a
    have silent : ((s.after actions).act a).1.token? = none := by
      cases token : ((s.after actions).act a).1.token? with
      | none => rfl
      | some t =>
          have called := reply.error given
          rw [reply.token token] at called
          contradiction
    have behind := records.reply reply
    rw [silent, Option.toList_none, List.append_nil] at behind
    obtain ⟨p, opens, place⟩ := behind.blame span (reply.failure_of_error given)
    obtain ⟨offset, line, column⟩ := Place.mk.inj place
    exact ⟨records.flag.mpr ⟨p, opens⟩, p, opens, offset.symm, line.symm, column.symm⟩

/-- A pragma that is still open when the mode has changed and the text ends. -/
theorem session_pragmas_element :
    ∃ s, s = Scanner.ofText " (#" ∧
      ((s.after [.next, .change (.element true)]).act .next).1.error? =
        some (.unterminated .pragma ⟨1, 3, 1, 2⟩) ∧
      (s.after [.next, .change (.element true)]).mode.pragma = true ∧
      ∃ p, PragmaOpen (s.returned [.next, .change (.element true)]) p ∧ 1 = p.span.start ∧
        1 = p.span.line ∧ 2 = p.span.column := by
  have opened := next_of_token (s := Scanner.ofText " (#") rfl
    ((settle_of_skip rfl).trans (settle_of_token rfl))
  have failed := next_of_fault
    (s := (Scanner.ofText " (#").after [.next, .change (.element true)])
    (by simp only [after, act, opened]; rfl)
    (by simp only [after, act, opened]; exact settle_of_fault rfl)
  have error : (((Scanner.ofText " (#").after [.next, .change (.element true)]).act
      .next).1.error? = some (.unterminated .pragma ⟨1, 3, 1, 2⟩) := by
    rw [act, failed]
    simp only [after, act, opened]
    rfl
  obtain ⟨-, -, -, blame⟩ :=
    session_pragmas " (#" {} rfl [.next, .change (.element true)] _ rfl
  exact ⟨_, rfl, error, blame .next _ error⟩

end Scanner

end QueryScan
