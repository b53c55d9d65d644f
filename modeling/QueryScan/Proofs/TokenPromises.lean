import QueryScan.Proofs.Sessions

/-! What a parser may take for granted: the text of a token belongs to its kind, and a kind occurs
only in the modes that permit it. Both hold of every call of every session. -/
namespace QueryScan.Scanner

open Scan

/-- The text of every token belongs to the grammar of its kind. -/
theorem session_lexemes (source : String) (m : Mode) (actions : List Action) :
    ∀ r ∈ (Scanner.ofText source m).readings actions,
      Lexeme r.mode r.token.kind r.token.text.toList := by
  apply forall_readings
  intro s t s' called
  obtain ⟨gap, gives⟩ := gives_of_next called
  exact gives.lexeme

theorem session_lexemes_reference :
    ∃ r ∈ (Scanner.ofText "&lt;" { context := .element }).readings [.next],
      r.token.kind = .entityRef ∧ Lexeme r.mode r.token.kind r.token.text.toList := by
  have called := next_of_token (s := Scanner.ofText "&lt;" { context := .element }) rfl
    (settle_of_token rfl)
  have member : ⟨{ context := .element }, tokenAt (.ofText "&lt;") .entityRef 4⟩ ∈
      (Scanner.ofText "&lt;" { context := .element }).readings [.next] := by
    simp only [readings, act, called]
    exact List.mem_cons_self
  exact ⟨_, member, rfl, session_lexemes _ _ _ _ member⟩

/-- Tokens are of permitted kinds. In content one of the rules before the last three applies to
whatever stands ahead, and an unexpected character is reported only where markup or a pragma has
gone wrong, at that very character. -/
theorem next_gated (s : Scanner) :
    (∀ t s', s.next = (.ok t, s') → s.mode.permits t.kind = true) ∧
      (s.mode.inContent = true →
        (∀ c r, ∃ early, rules = early ++ [blankRule, nameRule, singleRule] ∧
          (early.findSome? fun rule => rule s.mode (c :: r)).isSome = true) ∧
        ∀ found span s', s.failure = none → s.next = (.error (.noViableToken found span), s') →
          ∃ ahead, Stray s.mode s.cursor.rest ahead found ∧
            span = (s.cursor.forward ahead).place.upTo
              ((s.cursor.forward ahead).place.offset + found.utf8Size)) := by
  constructor
  · intro t s' called
    obtain ⟨gap, gives⟩ := gives_of_next called
    exact gives.permitted
  · intro content
    constructor
    · intro c r
      refine ⟨rules.take 18, (List.take_append_drop 18 rules).symm, ?_⟩
      rw [List.findSome?_isSome_iff]
      exact earlier_applies content c r
    · intro found span s' sound called
      obtain ⟨gap, cause, fails⟩ := fails_of_next sound called
      obtain rfl := fails.passable.content content
      cases cause with
      | noViable ahead c =>
          obtain ⟨rfl, rfl⟩ := LexError.noViableToken.inj fails.error
          exact ⟨ahead, stray_of_noViable content fails.found, rfl⟩
      | unterminated construct => cases fails.error
      | malformedNumber length => cases fails.error
      | malformedReference ahead length => cases fails.error

theorem next_gated_comment :
    ∃ span s', (Scanner.ofText "<!--a--b" { context := .element }).next =
        (.error (.noViableToken '-' span), s') ∧
      ∃ ahead, Stray { context := .element } "<!--a--b".toList ahead '-' ∧
        span = ((Cursor.ofText "<!--a--b").forward ahead).place.upTo
          (((Cursor.ofText "<!--a--b").forward ahead).place.offset + 1) := by
  have called := next_of_fault (s := Scanner.ofText "<!--a--b" { context := .element }) rfl
    (settle_of_fault rfl)
  obtain ⟨-, gated⟩ := next_gated (Scanner.ofText "<!--a--b" { context := .element })
  exact ⟨_, _, called, (gated rfl).2 _ _ _ rfl called⟩

end QueryScan.Scanner
