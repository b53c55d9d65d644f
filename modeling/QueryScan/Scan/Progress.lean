import QueryScan.Scan.Rules

/-! Every step but a fault reads some of the text, so scanning comes to an end. -/
namespace QueryScan

/-- The step reads at least one character, or is a fault. -/
def Step.Advances : Step → Prop
  | .token _ n => 0 < n
  | .skip n => 0 < n
  | .fault _ => True

namespace Scan

open Unicode (isBlank isDigit)

theorem run_pos {p : Char → Bool} {c : Char} {r : List Char} (h : p c = true) :
    0 < Text.run p (c :: r) := by
  simp [Text.run, h]

theorem spelling_length_pos (s : Symbol) : 0 < s.spelling.length := by
  cases s <;> decide

theorem runOf_advances {kind : Kind} {p : Char → Bool} {input : List Char} {s : Step}
    (h : runOf kind p input = some s) : s.Advances := by
  simp only [runOf] at h
  split at h
  · contradiction
  · next n =>
    cases h
    exact Nat.pos_of_ne_zero n

theorem whole_pos {input : List Char} (plain : ∀ r, input ≠ '.' :: r)
    (h : startsNumber input = true) : 0 < Text.run isDigit input := by
  unfold startsNumber at h
  split at h
  · exact absurd rfl (plain _)
  · exact run_pos h
  · contradiction

theorem mantissa_pos {input : List Char} (h : startsNumber input = true) :
    0 < (mantissa input).1 := by
  unfold mantissa
  split
  · dsimp only; omega
  · next plain =>
    have whole := whole_pos plain h
    dsimp only
    split <;> dsimp only <;> omega

theorem exponentRest_advances {read : Nat} (pos : 0 < read) (input : List Char) :
    (exponentRest read input).Advances := by
  simp only [exponentRest]
  split
  · trivial
  · show 0 < read + _ + _
    omega

theorem numberRest_advances {length : Nat} (pos : 0 < length) (dotted : Bool)
    (input : List Char) : (numberRest length dotted input).Advances := by
  unfold numberRest
  split
  · split
    · exact exponentRest_advances (Nat.succ_pos length) _
    · exact pos
  · exact pos

theorem number_advances {input : List Char} (h : startsNumber input = true) :
    (number input).Advances :=
  numberRest_advances (mantissa_pos h) _ _

theorem reference?_pos {input : List Char} {kind : Kind} {n : Nat}
    (h : reference? input = some (kind, n)) : 0 < n := by
  unfold reference? at h
  split at h
  case h_4 => contradiction
  all_goals
    obtain ⟨k, _, pair⟩ := Option.map_eq_some_iff.1 h
    cases pair
    omega

theorem reference_advances (input : List Char) : (reference input).Advances := by
  unfold reference
  split
  · next h => exact reference?_pos h
  · trivial

theorem stringRest_advances (d : Char) (read : Nat) (input : List Char) :
    (stringRest d read input).Advances := by
  fun_induction stringRest d read input <;> simp_all [Step.Advances]

theorem xmlCommentRest_advances (read : Nat) (input : List Char) :
    (xmlCommentRest read input).Advances := by
  fun_induction xmlCommentRest read input <;> simp_all [Step.Advances]

theorem instructionRest_advances (read : Nat) (input : List Char) :
    (instructionRest read input).Advances := by
  fun_cases instructionRest read input <;> simp_all [Step.Advances]

theorem pragmaEnd_advances (input : List Char) : (pragmaEnd input).Advances := by
  fun_cases pragmaEnd input <;> simp_all [Step.Advances]

theorem le_of_commentRest_eq_some {depth read n : Nat} {input : List Char}
    (h : commentRest depth read input = some n) : read ≤ n := by
  fun_induction commentRest depth read input <;> grind

/-! ### One rule at a time -/

section

variable {m : Mode} {input : List Char} {s : Step}

theorem symbolAmong_advances {table : List (List Char × Symbol)} (known : table ∈ symbolTables)
    (h : symbolAmong table input = some s) : s.Advances := by
  obtain ⟨entry, found, rfl⟩ := Option.map_eq_some_iff.1 h
  have spelled := symbolTables_spelled table known entry (List.mem_of_find?_eq_some found)
  show 0 < entry.1.length
  rw [spelled]
  exact spelling_length_pos entry.2

theorem braceRule_advances (h : braceRule m input = some s) : s.Advances :=
  symbolAmong_advances (by simp [symbolTables]) h

theorem commentRule_advances (h : commentRule m input = some s) : s.Advances := by
  unfold commentRule at h
  split at h
  · split at h
    · contradiction
    · split at h
      · next n hn =>
        cases h
        exact Nat.lt_of_lt_of_le (by decide) (le_of_commentRest_eq_some hn)
      · cases h
        trivial
  · contradiction

theorem xmlCommentRule_advances (h : xmlCommentRule m input = some s) : s.Advances := by
  unfold xmlCommentRule at h
  split at h
  · cases h
    exact xmlCommentRest_advances _ _
  · contradiction

theorem cdataRule_advances (h : cdataRule m input = some s) : s.Advances := by
  unfold cdataRule at h
  split at h
  · cases h
    split <;> simp [Step.Advances]
  · contradiction

theorem numberRule_advances (h : numberRule m input = some s) : s.Advances := by
  unfold numberRule at h
  split at h
  · next starts =>
    cases h
    exact number_advances (Bool.and_eq_true_iff.mp starts).2
  · contradiction

theorem dotRule_advances (h : dotRule m input = some s) : s.Advances :=
  symbolAmong_advances (by simp [symbolTables]) (Option.ite_none_left_eq_some.mp h).2

theorem closingMarkRule_advances (h : closingMarkRule m input = some s) : s.Advances :=
  symbolAmong_advances (by simp [symbolTables]) (Option.ite_none_left_eq_some.mp h).2

theorem instructionRule_advances (h : instructionRule m input = some s) : s.Advances := by
  unfold instructionRule at h
  split at h
  · split at h
    · cases h
      exact instructionRest_advances _ _
    · contradiction
  · contradiction

theorem angleRule_advances (h : angleRule m input = some s) : s.Advances :=
  symbolAmong_advances (by simp [symbolTables]) h

theorem attributeEscapeRule_advances (h : attributeEscapeRule m input = some s) : s.Advances := by
  unfold attributeEscapeRule at h
  split at h
  · obtain ⟨-, same⟩ := Option.ite_none_right_eq_some.mp h
    cases same
    exact Nat.two_pos
  · contradiction

theorem stringRule_advances (h : stringRule m input = some s) : s.Advances := by
  unfold stringRule at h
  split at h
  · obtain ⟨-, same⟩ := Option.ite_none_right_eq_some.mp h
    cases same
    exact stringRest_advances _ _ _
  · contradiction

theorem pairRule_advances (h : pairRule m input = some s) : s.Advances :=
  symbolAmong_advances (by simp [symbolTables]) (Option.ite_none_left_eq_some.mp h).2

theorem pragmaStartRule_advances (h : pragmaStartRule m input = some s) : s.Advances := by
  unfold pragmaStartRule at h
  split at h
  · obtain ⟨-, same⟩ := Option.ite_none_left_eq_some.mp h
    cases same
    exact Nat.add_pos_left Nat.two_pos _
  · contradiction

theorem pragmaEndRule_advances (h : pragmaEndRule m input = some s) : s.Advances := by
  unfold pragmaEndRule at h
  split at h
  · obtain ⟨-, same⟩ := Option.ite_none_right_eq_some.mp h
    cases same
    exact pragmaEnd_advances _
  · contradiction

theorem lessRule_advances (h : lessRule m input = some s) : s.Advances :=
  symbolAmong_advances (by simp [symbolTables]) h

theorem attributeRule_advances (h : attributeRule m input = some s) : s.Advances := by
  unfold attributeRule at h
  split at h
  · split at h
    · cases h
      exact reference_advances _
    · exact runOf_advances h
  · contradiction

theorem quoteRule_advances (h : quoteRule m input = some s) : s.Advances := by
  unfold quoteRule at h
  split at h
  · obtain ⟨-, quoted⟩ := Option.ite_none_left_eq_some.mp h
    obtain ⟨d, -, rfl⟩ := Option.map_eq_some_iff.1 quoted
    exact Nat.one_pos
  · contradiction

theorem elementRule_advances (h : elementRule m input = some s) : s.Advances := by
  unfold elementRule at h
  split at h
  · split at h
    · cases h
      exact reference_advances _
    · exact runOf_advances h
  · contradiction

theorem blankRule_advances (h : blankRule m input = some s) : s.Advances := by
  unfold blankRule at h
  split at h
  · next c r =>
    obtain ⟨blank, same⟩ := Option.ite_none_right_eq_some.mp h
    have pos : 0 < Text.run isBlank (c :: r) := run_pos (Bool.and_eq_true_iff.mp blank).2
    cases same
    split <;> exact pos
  · contradiction

theorem nameRule_advances (h : nameRule m input = some s) : s.Advances := by
  unfold nameRule at h
  split at h
  · obtain ⟨-, same⟩ := Option.ite_none_right_eq_some.mp h
    cases same
    exact Nat.add_pos_left Nat.one_pos _
  · contradiction

theorem singleRule_advances (h : singleRule m input = some s) : s.Advances :=
  symbolAmong_advances (by simp [symbolTables]) h

end

/-- Each rule reads some of the text, or finds a fault. -/
theorem rule_advances {rule : Rule} (member : rule ∈ rules) {m : Mode} {input : List Char}
    {s : Step} (h : rule m input = some s) : s.Advances := by
  simp only [rules, List.mem_cons, List.not_mem_nil, or_false] at member
  rcases member with rfl | rfl | rfl | rfl | rfl | rfl | rfl | rfl | rfl | rfl | rfl | rfl | rfl |
    rfl | rfl | rfl | rfl | rfl | rfl | rfl | rfl
  · exact braceRule_advances h
  · exact commentRule_advances h
  · exact xmlCommentRule_advances h
  · exact cdataRule_advances h
  · exact numberRule_advances h
  · exact dotRule_advances h
  · exact closingMarkRule_advances h
  · exact instructionRule_advances h
  · exact angleRule_advances h
  · exact attributeEscapeRule_advances h
  · exact stringRule_advances h
  · exact pairRule_advances h
  · exact pragmaStartRule_advances h
  · exact pragmaEndRule_advances h
  · exact lessRule_advances h
  · exact attributeRule_advances h
  · exact quoteRule_advances h
  · exact elementRule_advances h
  · exact blankRule_advances h
  · exact nameRule_advances h
  · exact singleRule_advances h

/-- Before the end every step reads some of the text, or is a fault. -/
theorem step_advances {m : Mode} {input : List Char} (ahead : input ≠ []) :
    (step m input).Advances := by
  cases input with
  | nil => contradiction
  | cons c r =>
    simp only [step]
    cases found : rules.findSome? fun rule => rule m (c :: r) with
    | none => trivial
    | some s =>
      obtain ⟨rule, member, hr⟩ := List.exists_of_findSome?_eq_some found
      exact rule_advances member hr

theorem eq_nil_of_step_eq_token {m : Mode} {input : List Char} {kind : Kind}
    (h : step m input = .token kind 0) : input = [] := by
  cases input with
  | nil => rfl
  | cons c r =>
    have advances := @step_advances m _ (List.cons_ne_nil c r)
    rw [h] at advances
    exact absurd advances (Nat.lt_irrefl 0)

theorem eq_eof_of_step_nil {m : Mode} {kind : Kind} {n : Nat} (h : step m [] = .token kind n) :
    kind = .eof := by
  simp only [step, endStep] at h
  split at h
  · contradiction
  · cases h
    rfl

theorem step_nil_ne_skip (m : Mode) (n : Nat) : step m [] ≠ .skip n := by
  simp only [step, endStep]
  split <;> simp

theorem pos_of_step_eq_skip {m : Mode} {input : List Char} {n : Nat}
    (h : step m input = .skip n) : 0 < n ∧ 0 < input.length := by
  cases input with
  | nil => exact absurd h (step_nil_ne_skip m n)
  | cons c r =>
    have advances := @step_advances m _ (List.cons_ne_nil c r)
    rw [h] at advances
    exact ⟨advances, by simp⟩

end Scan

end QueryScan
