import QueryScan.Proofs.Constructs
import QueryScan.Proofs.Dispatch

/-! Which kinds of tokens a mode permits. The rules are only partly gated by themselves: names,
symbols and blanks carry no gate, and in content stay out because an earlier rule always applies. -/
namespace QueryScan

/-- The kinds of tokens that may be given out in a mode. -/
def Mode.permits (m : Mode) : Kind → Bool
  | .eof => !m.pragma
  | .blank => m.blanks && !m.pragma && !m.inContent
  | .name | .keyword _ | .integer | .decimal | .double | .pragmaStart => !m.inContent
  | .string => m.strings && !m.inElement
  | .elementText => m.inElement
  | .attributeText => m.inAttribute
  | .entityRef | .charRef => m.inContent
  | .escape d => m.delimiter? == some d
  | .quote d => !m.strings && !m.inElement && (!m.inAttribute || m.delimiter? == some d)
  | .comment | .cdata | .instruction => true
  | .pragmaEnd => m.pragma
  | .symbol s =>
    !m.inContent || [.leftBrace, .rightBrace, .less, .endTag, .before, .lessEq].contains s

theorem Mode.context_cases (m : Mode) :
    m.context = .expression ∨ m.context = .element ∨ ∃ d, m.context = .attribute d := by
  cases m.context <;> simp

theorem Mode.delimiter?_eq_some_iff {m : Mode} {d : Delimiter} :
    m.delimiter? = some d ↔ m.context = .attribute d := by
  unfold delimiter?
  cases m.context <;> simp

theorem Mode.expression_of_not_inContent {m : Mode} (h : m.inContent = false) :
    m.context = .expression := by
  simpa [Mode.inContent] using h

/-- A token of a permitted kind; in content nothing is passed over. -/
def Step.Permitted (m : Mode) : Step → Prop
  | .token k _ => m.permits k = true
  | .skip _ => m.inContent = false
  | .fault _ => True

namespace Scan

open Grammar
open Unicode
open Text (run)

variable {m : Mode}

theorem symbolAmong_permitted {table : List (List Char × Symbol)} {input : List Char} {s : Step}
    (permitted : ∀ entry ∈ table, m.permits (.symbol entry.2) = true)
    (h : symbolAmong table input = some s) : s.Permitted m := by
  obtain ⟨entry, found, rfl⟩ := Option.map_eq_some_iff.mp h
  exact permitted entry (List.mem_of_find?_eq_some found)

theorem xmlCommentRest_permitted (read : Nat) (input : List Char) :
    (xmlCommentRest read input).Permitted m := by
  fun_induction xmlCommentRest read input with
  | case1 => rfl
  | case2 => trivial
  | case3 _ _ _ _ _ ih => exact ih
  | case4 => trivial

theorem instructionRest_permitted (read : Nat) (input : List Char) :
    (instructionRest read input).Permitted m := by
  rcases instructionRest_cases read input with
    ⟨_, found⟩ | ⟨_, -, found⟩ | ⟨_, _, _, -, -, -, found⟩
  · rw [found]; trivial
  · rw [found]; rfl
  · rw [found]; rfl

theorem pragmaEnd_permitted (inside : m.pragma = true) (input : List Char) :
    (pragmaEnd input).Permitted m := by
  unfold pragmaEnd
  split
  · exact inside
  · trivial
  · split
    · exact inside
    · trivial

theorem reference_permitted (content : m.inContent = true) (input : List Char) :
    (reference input).Permitted m := by
  unfold reference
  split
  · next k n found =>
      unfold reference? at found
      split at found
      case h_4 => contradiction
      all_goals
        obtain ⟨_, _, same⟩ := Option.map_eq_some_iff.mp found
        cases same
        exact content
  · trivial

theorem stringRest_permitted (on : m.strings = true) (outside : m.inElement = false) (d : Char)
    (read : Nat) (input : List Char) : (stringRest d read input).Permitted m := by
  cases found : stringRest d read input with
  | token k n =>
      obtain ⟨rfl, -⟩ := stringRest_split found
      simp [Step.Permitted, Mode.permits, on, outside]
  | skip n => exact absurd found (stringRest_ne_skip _ _ _ _)
  | fault cause => trivial

theorem number_permitted (outside : m.inContent = false) (input : List Char) :
    (number input).Permitted m := by
  rcases numberRest_cases (mantissa input).1 (mantissa input).2 (input.drop (mantissa input).1) with
    found | ⟨_, r, -, -, found⟩
  · rw [number, found]
    cases (mantissa input).2 <;> simp [Step.Permitted, Mode.permits, outside]
  · rw [number, found]
    rcases exponentRest_cases ((mantissa input).1 + 1) r with
      ⟨_, fault⟩ | ⟨_, _, _, -, -, -, token⟩
    · rw [fault]; trivial
    · rw [token]
      simp [Step.Permitted, Mode.permits, outside]

theorem cdataRule_permitted {input : List Char} {s : Step} (h : cdataRule m input = some s) :
    s.Permitted m := by
  unfold cdataRule at h
  split at h
  · cases h
    split
    · rfl
    · trivial
  · contradiction

theorem markup_permitted {rule : Rule} {input : List Char} {s : Step}
    (member : rule ∈ [xmlCommentRule, cdataRule, instructionRule])
    (h : rule m input = some s) : s.Permitted m := by
  simp only [List.mem_cons, List.not_mem_nil, or_false] at member
  rcases member with rfl | rfl | rfl
  · unfold xmlCommentRule at h
    split at h
    · cases h; exact xmlCommentRest_permitted _ _
    · contradiction
  · exact cdataRule_permitted h
  · unfold instructionRule at h
    split at h
    · split at h
      · cases h; exact instructionRest_permitted _ _
      · contradiction
    · contradiction

/-- Markup and the symbols that start with its first character are read in every mode. -/
theorem step_angle_permitted (r : List Char) : (step m ('<' :: r)).Permitted m := by
  rw [step_angle]
  rcases firstOf_cases [xmlCommentRule, cdataRule, instructionRule, angleRule, lessRule] m '<' r
    with ⟨rule, member, fires⟩ | ⟨fault, -⟩
  · have parts : rule ∈ [xmlCommentRule, cdataRule, instructionRule] ∨
        rule ∈ [angleRule, lessRule] := List.mem_append.mp member
    rcases parts with markup | symbol
    · exact markup_permitted markup fires
    · simp only [List.mem_cons, List.not_mem_nil, or_false] at symbol
      rcases symbol with rfl | rfl
      · exact symbolAmong_permitted (by simp [angles, Mode.permits]) fires
      · exact symbolAmong_permitted (by simp [lessSign, Mode.permits]) fires
  · rw [fault]; trivial

section Expression

variable (context : m.context = .expression)

include context

theorem symbol_permitted {table : List (List Char × Symbol)} {input : List Char} {s : Step}
    (h : symbolAmong table input = some s) : s.Permitted m := by
  refine symbolAmong_permitted ?_ h
  intro entry _
  simp [Mode.permits, not_inContent context]

theorem commentRule_permitted {input : List Char} {s : Step} (h : commentRule m input = some s) :
    s.Permitted m := by
  unfold commentRule at h
  split at h
  · rw [if_neg (by simp [not_inContent context])] at h
    cases h
    split
    · exact not_inContent context
    · trivial
  · contradiction

theorem pragmaStartRule_permitted {input : List Char} {s : Step}
    (h : pragmaStartRule m input = some s) : s.Permitted m := by
  unfold pragmaStartRule at h
  split at h
  · rw [if_neg (by simp [not_inContent context])] at h
    cases h
    simp [Step.Permitted, Mode.permits, not_inContent context]
  · contradiction

theorem quoteRule_permitted {input : List Char} {s : Step} (h : quoteRule m input = some s) :
    s.Permitted m := by
  unfold quoteRule at h
  split at h
  · split at h
    · contradiction
    · next off =>
        obtain ⟨d, -, rfl⟩ := Option.map_eq_some_iff.mp h
        have value : m.inAttribute = false := by simp [Mode.inAttribute, Mode.delimiter?, context]
        simpa [Step.Permitted, Mode.permits, value] using off
  · contradiction

theorem blankRule_permitted {input : List Char} {s : Step} (h : blankRule m input = some s) :
    s.Permitted m := by
  unfold blankRule at h
  split at h
  · split at h
    · next here =>
        simp only [Bool.and_eq_true, Bool.not_eq_true'] at here
        cases h
        split
        · next explicit =>
            simp [Step.Permitted, Mode.permits, explicit, here.1, not_inContent context]
        · exact not_inContent context
    · contradiction
  · contradiction

theorem nameRule_permitted {input : List Char} {s : Step} (h : nameRule m input = some s) :
    s.Permitted m := by
  unfold nameRule at h
  split at h
  · split at h
    · cases h
      unfold Kind.ofName
      split <;> simp [Step.Permitted, Mode.permits, not_inContent context]
    · contradiction
  · contradiction

theorem step_expression_permitted {c : Char} (r : List Char) (h : c ∉ ['{', '}', '<']) :
    (step m (c :: r)).Permitted m := by
  have outside := not_inContent context
  rw [step_expression r context h]
  rcases firstOf_cases [commentRule, numberRule, dotRule, closingMarkRule, stringRule, pairRule,
      pragmaStartRule, pragmaEndRule, quoteRule, blankRule, nameRule, singleRule] m c r with
    ⟨rule, member, fires⟩ | ⟨fault, -⟩
  · generalize firstOf _ m c r = s at fires ⊢
    simp only [List.mem_cons, List.not_mem_nil, or_false] at member
    rcases member with rfl | rfl | rfl | rfl | rfl | rfl | rfl | rfl | rfl | rfl | rfl | rfl
    · exact commentRule_permitted context fires
    · obtain ⟨-, same⟩ := Option.ite_none_right_eq_some.mp fires
      cases same
      exact number_permitted outside _
    · exact symbol_permitted context (Option.ite_none_left_eq_some.mp fires).2
    · exact symbol_permitted context (Option.ite_none_left_eq_some.mp fires).2
    · obtain ⟨opens, same⟩ := Option.ite_none_right_eq_some.mp fires
      cases same
      simp only [Bool.and_eq_true] at opens
      exact stringRest_permitted opens.1.2 (not_inElement context) _ _ _
    · exact symbol_permitted context (Option.ite_none_left_eq_some.mp fires).2
    · exact pragmaStartRule_permitted context fires
    · obtain ⟨inside, same⟩ := Option.ite_none_right_eq_some.mp fires
      cases same
      simp only [Bool.and_eq_true] at inside
      exact pragmaEnd_permitted inside.1 _
    · exact quoteRule_permitted context fires
    · exact blankRule_permitted context fires
    · exact nameRule_permitted context fires
    · exact symbol_permitted context fires
  · rw [fault]; trivial

end Expression

theorem step_element_permitted {c : Char} (r : List Char) (context : m.context = .element)
    (h : c ∉ ['{', '}', '<']) : (step m (c :: r)).Permitted m := by
  rw [step_element r context h]
  split
  · next stop =>
      simp only [Bool.and_eq_true] at stop
      exact pragmaEnd_permitted stop.1 _
  · split
    · exact reference_permitted (by simp [Mode.inContent, context]) _
    · simp [Step.Permitted, Mode.permits, Mode.inElement, context]

theorem step_attribute_permitted {d : Delimiter} {c : Char} (r : List Char)
    (context : m.context = .attribute d) (h : c ∉ ['{', '}', '<']) :
    (step m (c :: r)).Permitted m := by
  have delimiter : m.delimiter? = some d := by simp [Mode.delimiter?, context]
  have outside : m.inElement = false := by simp [Mode.inElement, context]
  rw [step_attribute r context h]
  split
  · simp [Step.Permitted, Mode.permits, delimiter]
  · split
    · next opens =>
        simp only [Bool.and_eq_true] at opens
        exact stringRest_permitted opens.2 outside _ _ _
    · next closed =>
        split
        · next stop =>
            simp only [Bool.and_eq_true] at stop
            exact pragmaEnd_permitted stop.1 _
        · split
          · exact reference_permitted (by simp [Mode.inContent, context]) _
          · split
            · next same =>
                have off : m.strings = false := by simpa [same, ofChar?_char] using closed
                simp [Step.Permitted, Mode.permits, off, outside, delimiter]
            · simp [Step.Permitted, Mode.permits, Mode.inAttribute, delimiter]

/-- Every step gives a token that its mode permits, and in content passes over nothing. -/
theorem step_permitted (m : Mode) (input : List Char) : (step m input).Permitted m := by
  cases input with
  | nil =>
      simp only [step, endStep]
      split
      · trivial
      · next outside => simpa [Step.Permitted, Mode.permits] using outside
  | cons c r =>
      by_cases lead : c ∈ ['{', '}', '<']
      · simp only [List.mem_cons, List.not_mem_nil, or_false] at lead
        rcases lead with rfl | rfl | rfl
        · simp [step_leftBrace, Step.Permitted, Mode.permits]
        · simp [step_rightBrace, Step.Permitted, Mode.permits]
        · exact step_angle_permitted r
      · rcases m.context_cases with context | context | ⟨d, context⟩
        · exact step_expression_permitted context r lead
        · exact step_element_permitted r context lead
        · exact step_attribute_permitted r context lead

/-! ### Content -/

theorem context_of_content (content : m.inContent = true) :
    m.context = .element ∨ ∃ d, m.context = .attribute d := by
  refine m.context_cases.resolve_left ?_
  intro context
  rw [not_inContent context] at content
  contradiction

/-- In content the last three rules are never reached: one of the rules before them applies to
whatever stands ahead. -/
theorem earlier_applies (content : m.inContent = true) (c : Char) (r : List Char) :
    ∃ rule ∈ rules.take 18, (rule m (c :: r)).isSome = true := by
  by_cases lead : c ∈ ['{', '}', '<']
  · simp only [List.mem_cons, List.not_mem_nil, or_false] at lead
    rcases lead with rfl | rfl | rfl
    · exact ⟨braceRule, by simp [rules], rfl⟩
    · exact ⟨braceRule, by simp [rules], rfl⟩
    · exact ⟨lessRule, by simp [rules], rfl⟩
  · rcases context_of_content content with context | ⟨d, context⟩
    · refine ⟨elementRule, by simp [rules], ?_⟩
      by_cases amp : c = '&'
      · simp [elementRule, context, amp]
      · simp [elementRule, context, amp, runOf_of_pos r (isPlain_of_not_mem lead amp)]
    · have outside : m.inElement = false := by simp [Mode.inElement, context]
      by_cases amp : c = '&'
      · refine ⟨attributeRule, by simp [rules], ?_⟩
        simp [attributeRule, context, amp]
      · by_cases delimiter : c = d.char
        · subst delimiter
          cases strings : m.strings with
          | true =>
              refine ⟨stringRule, by simp [rules], ?_⟩
              simp [stringRule, ofChar?_char, strings, outside]
          | false =>
              refine ⟨quoteRule, by simp [rules], ?_⟩
              simp [quoteRule, ofChar?_char, strings, outside]
        · refine ⟨attributeRule, by simp [rules], ?_⟩
          rw [attributeRule_eq r context lead amp, if_neg delimiter]
          rfl

/-- An unexpected character `ahead` characters on, in a text that starts well: two hyphens inside
an XML comment, a target with a foreign character behind it, or a hash that does not close its
pragma. -/
inductive Stray (m : Mode) : List Char → Nat → Char → Prop
  | hyphens {body r} : XmlCommentBody body → r.head? ≠ some '>' →
      Stray m ('<' :: '!' :: '-' :: '-' :: (body ++ '-' :: '-' :: r)) (body.length + 5) '-'
  | target {name c r} : Name name → isNameChar c = false → isBlank c = false →
      (c = '?' → r.head? ≠ some '>') → Stray m ('<' :: '?' :: (name ++ c :: r)) (name.length + 2) c
  | hash {r} : m.pragma = true → r.head? ≠ some ')' → Stray m ('#' :: r) 0 '#'

theorem xmlCommentRest_noViable {read ahead : Nat} {found : Char} {input : List Char}
    (h : xmlCommentRest read input = .fault (.noViable ahead found)) :
    found = '-' ∧ ∃ body r, input = body ++ '-' :: '-' :: r ∧ XmlCommentBody body ∧
      r.head? ≠ some '>' ∧ ahead = read + body.length + 1 := by
  fun_induction xmlCommentRest read input with
  | case1 => contradiction
  | case2 read r notClosed =>
      cases h
      refine ⟨rfl, [], r, rfl, .nil, ?_, rfl⟩
      intro head
      obtain ⟨t, rfl⟩ := List.head?_eq_some_iff.mp head
      exact notClosed t rfl
  | case3 read c r notClosed notHyphens ih =>
      obtain ⟨rfl, body, t, rfl, valid, unclosed, rfl⟩ := ih h
      refine ⟨rfl, c :: body, t, rfl, xmlCommentBody_cons valid notHyphens, unclosed, ?_⟩
      rw [List.length_cons]
      omega
  | case4 => cases h

theorem instructionRest_noViable {read ahead : Nat} {found : Char} {input : List Char}
    (h : instructionRest read input = .fault (.noViable ahead found)) :
    ahead = read ∧ ∃ r, input = found :: r ∧ isBlank found = false ∧
      (found = '?' → r.head? ≠ some '>') := by
  unfold instructionRest at h
  split at h
  · contradiction
  · cases h
  · next c r notClosed =>
      split at h
      · split at h <;> cases h
      · next solid =>
          cases h
          refine ⟨rfl, r, rfl, by simpa using solid, ?_⟩
          rintro rfl head
          obtain ⟨t, rfl⟩ := List.head?_eq_some_iff.mp head
          exact notClosed t rfl rfl

theorem pragmaEnd_noViable {ahead : Nat} {found : Char} {input : List Char}
    (h : pragmaEnd input = .fault (.noViable ahead found)) :
    ahead = 0 ∧ found = '#' ∧ ∃ r, input = '#' :: r ∧ r.head? ≠ some ')' := by
  unfold pragmaEnd at h
  split at h
  · contradiction
  · next r notClosed =>
      cases h
      refine ⟨rfl, rfl, r, rfl, ?_⟩
      intro head
      obtain ⟨t, rfl⟩ := List.head?_eq_some_iff.mp head
      exact notClosed t rfl
  · split at h <;> cases h

theorem symbolAmong_ne_fault (table : List (List Char × Symbol)) (input : List Char)
    (cause : Fault) : symbolAmong table input ≠ some (.fault cause) := by
  simp [symbolAmong]

theorem reference_ne_noViable (input : List Char) (ahead : Nat) (found : Char) :
    reference input ≠ .fault (.noViable ahead found) := by
  unfold reference
  split <;> simp

theorem stringRest_ne_noViable (d : Char) (read : Nat) (input : List Char) (ahead : Nat)
    (found : Char) : stringRest d read input ≠ .fault (.noViable ahead found) := by
  fun_induction stringRest d read input <;> simp_all

/-- Behind an angle bracket an unexpected character is found in markup only. -/
theorem step_angle_stray {r : List Char} {ahead : Nat} {found : Char}
    (h : step m ('<' :: r) = .fault (.noViable ahead found)) : Stray m ('<' :: r) ahead found := by
  rw [step_angle] at h
  rcases firstOf_cases [xmlCommentRule, cdataRule, instructionRule, angleRule, lessRule] m '<' r
    with ⟨rule, member, fires⟩ | ⟨-, none⟩
  · rw [h] at fires
    simp only [List.mem_cons, List.not_mem_nil, or_false] at member
    rcases member with rfl | rfl | rfl | rfl | rfl
    · unfold xmlCommentRule at fires
      split at fires
      · next t same =>
          rw [same]
          obtain ⟨rfl, body, u, rfl, valid, unclosed, rfl⟩ :=
            xmlCommentRest_noViable (Option.some.inj fires)
          rw [show 4 + body.length + 1 = body.length + 5 by omega]
          exact .hyphens valid unclosed
      · contradiction
    · unfold cdataRule at fires
      split at fires
      · simp only [Option.some.injEq] at fires
        split at fires <;> cases fires
      · contradiction
    · unfold instructionRule at fires
      split at fires
      · next c t same =>
          rw [same]
          obtain ⟨start, fires⟩ := Option.ite_none_right_eq_some.mp fires
          obtain ⟨target, u, rfl, length, all, stop⟩ := Text.run_split isNameChar t
          simp only [length, List.drop_left] at fires
          obtain ⟨rfl, v, rfl, solid, unclosed⟩ := instructionRest_noViable (Option.some.inj fires)
          rw [show 3 + target.length = (c :: target).length + 2 by rw [List.length_cons]; omega]
          exact .target ⟨c, target, rfl, start, all⟩ (stop found rfl) solid unclosed
      · contradiction
    · exact absurd fires (symbolAmong_ne_fault _ _ _)
    · exact absurd fires (symbolAmong_ne_fault _ _ _)
  · exact absurd (none lessRule (by simp)) (by simp [lessRule, symbolAmong, lessSign])

/-- In content no character is unexpected by itself. -/
theorem stray_of_noViable (content : m.inContent = true) {input : List Char} {ahead : Nat}
    {found : Char} (h : step m input = .fault (.noViable ahead found)) :
    Stray m input ahead found := by
  cases input with
  | nil =>
      simp only [step, endStep] at h
      split at h <;> cases h
  | cons c r =>
      have hash : (m.pragma && (isBlank c || c == '#')) = true →
          pragmaEnd (c :: r) = .fault (.noViable ahead found) → Stray m (c :: r) ahead found := by
        intro stop fault
        obtain ⟨rfl, rfl, t, same, unclosed⟩ := pragmaEnd_noViable fault
        rw [same]
        simp only [Bool.and_eq_true] at stop
        exact .hash stop.1 unclosed
      by_cases lead : c ∈ ['{', '}', '<']
      · simp only [List.mem_cons, List.not_mem_nil, or_false] at lead
        rcases lead with rfl | rfl | rfl
        · rw [step_leftBrace] at h; contradiction
        · rw [step_rightBrace] at h; contradiction
        · exact step_angle_stray h
      · rcases context_of_content content with context | ⟨d, context⟩
        · rw [step_element r context lead] at h
          split at h
          · next stop => exact hash stop h
          · split at h
            · exact absurd h (reference_ne_noViable _ _ _)
            · contradiction
        · rw [step_attribute r context lead] at h
          split at h
          · contradiction
          · split at h
            · exact absurd h (stringRest_ne_noViable _ _ _ _ _)
            · split at h
              · next stop => exact hash stop h
              · split at h
                · exact absurd h (reference_ne_noViable _ _ _)
                · split at h <;> contradiction

end Scan

end QueryScan
