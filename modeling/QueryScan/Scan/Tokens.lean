import QueryScan.Scan.Scanner

/-! All tokens of a source. Each token is read from at least one character, so the sequence ends. -/
namespace QueryScan.Scanner

/-- The settled cursor stands where a token or a fault starts, and not before the first cursor. -/
theorem settle_eq {m : Mode} {c d : Cursor} {kind : Kind} {n : Nat}
    (h : settle m c = (d, .ok (kind, n))) :
    Scan.step m d.rest = .token kind n ∧ d.rest.length ≤ c.rest.length := by
  fun_induction settle m c with
  | case1 c k found ih =>
    obtain ⟨settled, le⟩ := ih h
    rw [Cursor.length_rest_forward] at le
    exact ⟨settled, by omega⟩
  | case2 c kind' k found =>
    cases h
    exact ⟨found, Nat.le_refl _⟩
  | case3 c cause found => cases h

theorem length_rest_lt_of_pull {s s' : Scanner} {t : Token} (h : s.pull = (some (.ok t), s')) :
    s'.cursor.rest.length < s.cursor.rest.length := by
  unfold pull at h
  split at h
  · simp at h
  · split at h
    · next t' s'' hn =>
      split at h
      · simp at h
      · next live =>
        cases h
        unfold next at hn
        split at hn
        · simp at hn
        · split at hn
          · next c kind n settled =>
            cases hn
            obtain ⟨found, le⟩ := settle_eq settled
            rw [Cursor.length_rest_forward]
            cases ahead : c.rest with
            | nil =>
              rw [ahead] at found
              simp only [Scan.step, Scan.endStep] at found
              split at found
              · contradiction
              · cases found
                simp [Token.isEof, tokenAt] at live
            | cons x r =>
              have advances := @Scan.step_advances s.mode c.rest (by simp [ahead])
              rw [found] at advances
              have : 0 < n := advances
              rw [ahead] at le
              simp only [List.length_cons] at le ⊢
              omega
          · simp at hn
    · simp at h

/-- The tokens up to the end or the first error, that error, and the scanner behind them. -/
def collect (s : Scanner) (read : Array Token := #[]) :
    Array Token × Option LexError × Scanner :=
  match _pulled : s.pull with
  | (some (.ok t), s') => collect s' (read.push t)
  | (some (.error e), s') => (read, some e, s')
  | (none, s') => (read, none, s')
termination_by s.cursor.rest.length
decreasing_by exact length_rest_lt_of_pull _pulled

def tokenize (s : Scanner) : Except LexError (List Token) :=
  match s.collect with
  | (tokens, none, _) => .ok tokens.toList
  | (_, some e, _) => .error e

end QueryScan.Scanner
