import QueryScan.Proofs.CharClass
import QueryScan.Scan.Progress

/-! The order of the rules, read off the first character. For each class of first characters one
equation says which rules are left to decide the step; all others do not apply to it. -/
namespace QueryScan.Scan

open Unicode
open Text (run)

/-- The step of the first of some rules that applies to a text with `c` ahead. -/
def firstOf (candidates : List Rule) (m : Mode) (c : Char) (r : List Char) : Step :=
  (candidates.findSome? fun rule => rule m (c :: r)).getD (.fault (.noViable 0 c))

theorem firstOf_of_some {rule : Rule} {candidates : List Rule} {m : Mode} {c : Char}
    {r : List Char} {s : Step} (h : rule m (c :: r) = some s) :
    firstOf (rule :: candidates) m c r = s := by
  simp only [firstOf, List.findSome?_cons, h, Option.getD_some]

theorem firstOf_of_none {rule : Rule} {candidates : List Rule} {m : Mode} {c : Char}
    {r : List Char} (h : rule m (c :: r) = none) :
    firstOf (rule :: candidates) m c r = firstOf candidates m c r := by
  simp only [firstOf, List.findSome?_cons, h]

/-- Behind a rule that applies no other counts. -/
theorem firstOf_of_isSome {rule : Rule} {candidates : List Rule} {m : Mode} {c : Char}
    {r : List Char} (h : (rule m (c :: r)).isSome = true) :
    firstOf (rule :: candidates) m c r = firstOf [rule] m c r := by
  obtain ⟨s, fires⟩ := Option.isSome_iff_exists.mp h
  rw [firstOf_of_some fires, firstOf_of_some fires]

theorem firstOf_append (first second : List Rule) (m : Mode) (c : Char) (r : List Char) :
    firstOf (first ++ second) m c r =
      (first.findSome? fun rule => rule m (c :: r)).getD (firstOf second m c r) := by
  rw [firstOf, firstOf, List.findSome?_append]
  cases first.findSome? fun rule => rule m (c :: r) <;> rfl

/-- The step comes from one of the rules, or none of them applies. -/
theorem firstOf_cases (candidates : List Rule) (m : Mode) (c : Char) (r : List Char) :
    (∃ rule ∈ candidates, rule m (c :: r) = some (firstOf candidates m c r)) ∨
      (firstOf candidates m c r = .fault (.noViable 0 c) ∧
        ∀ rule ∈ candidates, rule m (c :: r) = none) := by
  unfold firstOf
  cases found : candidates.findSome? fun rule => rule m (c :: r) with
  | some s =>
      obtain ⟨rule, member, fires⟩ := List.exists_of_findSome?_eq_some found
      exact .inl ⟨rule, member, fires⟩
  | none => exact .inr ⟨rfl, fun rule member => List.findSome?_eq_none_iff.mp found rule member⟩

theorem step_cons (m : Mode) (c : Char) (r : List Char) :
    step m (c :: r) = firstOf rules m c r := rfl

/-! ### Where the rules do not apply -/

section

variable {m : Mode} {c : Char} {r : List Char}

theorem symbolAmong_of_not_mem {table : List (List Char × Symbol)} {heads : List Char}
    (h : c ∉ heads) (headed : ∀ entry ∈ table, entry.1.head? ∈ heads.map some) :
    symbolAmong table (c :: r) = none := by
  simp only [symbolAmong, Option.map_eq_none_iff, List.find?_eq_none]
  intro entry member start
  obtain ⟨t, same⟩ := List.isPrefixOf_iff_prefix.mp start
  obtain ⟨x, inHeads, head⟩ := List.mem_map.mp (headed entry member)
  obtain ⟨u, first⟩ := List.head?_eq_some_iff.mp head.symm
  rw [first] at same
  exact h ((List.cons.inj same).1 ▸ inHeads)

theorem braceRule_of_not_mem (h : c ∉ ['{', '}']) : braceRule m (c :: r) = none :=
  symbolAmong_of_not_mem h (by decide)

theorem angleRule_of_ne (h : c ≠ '<') : angleRule m (c :: r) = none :=
  symbolAmong_of_not_mem (mt List.mem_singleton.mp h) (by decide)

theorem lessRule_of_ne (h : c ≠ '<') : lessRule m (c :: r) = none :=
  symbolAmong_of_not_mem (mt List.mem_singleton.mp h) (by decide)

theorem dotRule_of_ne (h : c ≠ '.') : dotRule m (c :: r) = none := by
  rw [dotRule, symbolAmong_of_not_mem (mt List.mem_singleton.mp h) (by decide), ite_self]

theorem closingMarkRule_of_not_mem (h : c ∉ ['-', ']', '?', '>']) :
    closingMarkRule m (c :: r) = none := by
  rw [closingMarkRule, symbolAmong_of_not_mem h (by decide), ite_self]

theorem pairRule_of_not_mem (h : c ∉ ['/', '|', '&', '!', '>']) :
    pairRule m (c :: r) = none := by
  rw [pairRule, symbolAmong_of_not_mem h (by decide), ite_self]

theorem commentRule_of_ne (h : c ≠ '(') : commentRule m (c :: r) = none := by
  unfold commentRule
  split
  · next same => exact absurd (List.cons.inj same).1 h
  · rfl

theorem pragmaStartRule_of_ne (h : c ≠ '(') : pragmaStartRule m (c :: r) = none := by
  unfold pragmaStartRule
  split
  · next same => exact absurd (List.cons.inj same).1 h
  · rfl

theorem xmlCommentRule_of_ne (h : c ≠ '<') : xmlCommentRule m (c :: r) = none := by
  unfold xmlCommentRule
  split
  · next same => exact absurd (List.cons.inj same).1 h
  · rfl

theorem cdataRule_of_ne (h : c ≠ '<') : cdataRule m (c :: r) = none := by
  unfold cdataRule
  split
  · next same => exact absurd (List.cons.inj same).1 h
  · rfl

theorem instructionRule_of_ne (h : c ≠ '<') : instructionRule m (c :: r) = none := by
  unfold instructionRule
  split
  · next same => exact absurd (List.cons.inj same).1 h
  · rfl

theorem startsNumber_of_ne (dot : c ≠ '.') (digit : isDigit c = false) :
    startsNumber (c :: r) = false := by
  unfold startsNumber
  split
  · next same => exact absurd (List.cons.inj same).1 dot
  · next same => rw [← (List.cons.inj same).1, digit]
  · rfl

theorem numberRule_of_ne (dot : c ≠ '.') (digit : isDigit c = false) :
    numberRule m (c :: r) = none := by
  simp [numberRule, startsNumber_of_ne dot digit]

theorem ofChar?_of_ne (quot : c ≠ '"') (apos : c ≠ '\'') : Delimiter.ofChar? c = none := by
  rw [Delimiter.ofChar?, if_neg quot, if_neg apos]

theorem attributeEscapeRule_of_ne (quot : c ≠ '"') (apos : c ≠ '\'') :
    attributeEscapeRule m (c :: r) = none := by
  unfold attributeEscapeRule
  split
  · next d a b t context same =>
      obtain ⟨rfl, rfl⟩ := List.cons.inj same
      cases d <;> simp_all [Delimiter.char]
  · rfl

theorem stringRule_of_ne (quot : c ≠ '"') (apos : c ≠ '\'') : stringRule m (c :: r) = none := by
  simp [stringRule, ofChar?_of_ne quot apos]

theorem quoteRule_of_ne (quot : c ≠ '"') (apos : c ≠ '\'') : quoteRule m (c :: r) = none := by
  simp [quoteRule, ofChar?_of_ne quot apos]

theorem pragmaEndRule_of_ne (blank : isBlank c = false) (hash : c ≠ '#') :
    pragmaEndRule m (c :: r) = none := by
  simp [pragmaEndRule, blank, hash]

theorem blankRule_of_ne (blank : isBlank c = false) : blankRule m (c :: r) = none := by
  simp [blankRule, blank]

/-- The rules of expressions do not apply in content. -/
theorem commentRule_of_content (h : m.inContent = true) : commentRule m (c :: r) = none := by
  unfold commentRule
  split
  · rw [if_pos h]
  · rfl

theorem pragmaStartRule_of_content (h : m.inContent = true) :
    pragmaStartRule m (c :: r) = none := by
  unfold pragmaStartRule
  split
  · rw [if_pos h]
  · rfl

theorem attributeEscapeRule_of_context (h : ∀ d, m.context ≠ .attribute d) :
    attributeEscapeRule m (c :: r) = none := by
  unfold attributeEscapeRule
  split
  · next context _ => exact absurd context (h _)
  · rfl

theorem attributeRule_of_context (h : ∀ d, m.context ≠ .attribute d) :
    attributeRule m (c :: r) = none := by
  unfold attributeRule
  split
  · next context _ => exact absurd context (h _)
  · rfl

theorem elementRule_of_context (h : m.context ≠ .element) : elementRule m (c :: r) = none := by
  unfold elementRule
  split
  · next context _ => exact absurd context h
  · rfl

theorem nameRule_of_ne (start : isNameStart c = false) : nameRule m (c :: r) = none := by
  simp [nameRule, start]

end

/-! ### Steps by the first character -/

/-- Braces are tokens in every mode. -/
theorem step_leftBrace (m : Mode) (r : List Char) :
    step m ('{' :: r) = .token (.symbol .leftBrace) 1 := rfl

theorem step_rightBrace (m : Mode) (r : List Char) :
    step m ('}' :: r) = .token (.symbol .rightBrace) 1 := rfl

/-- Behind an angle bracket only markup is left, in every mode. -/
theorem step_angle (m : Mode) (r : List Char) :
    step m ('<' :: r) =
      firstOf [xmlCommentRule, cdataRule, instructionRule, angleRule, lessRule] m '<' r := by
  have brace : braceRule m ('<' :: r) = none := braceRule_of_not_mem (by decide)
  have comment : commentRule m ('<' :: r) = none := commentRule_of_ne (by decide)
  have number : numberRule m ('<' :: r) = none := numberRule_of_ne (by decide) (by decide)
  have dot : dotRule m ('<' :: r) = none := dotRule_of_ne (by decide)
  have closing : closingMarkRule m ('<' :: r) = none := closingMarkRule_of_not_mem (by decide)
  have escape : attributeEscapeRule m ('<' :: r) = none :=
    attributeEscapeRule_of_ne (by decide) (by decide)
  have string : stringRule m ('<' :: r) = none := stringRule_of_ne (by decide) (by decide)
  have pair : pairRule m ('<' :: r) = none := pairRule_of_not_mem (by decide)
  have start : pragmaStartRule m ('<' :: r) = none := pragmaStartRule_of_ne (by decide)
  have stop : pragmaEndRule m ('<' :: r) = none := pragmaEndRule_of_ne (by decide) (by decide)
  have less : lessRule m ('<' :: r) = some (.token (.symbol .less) 1) := rfl
  simp only [step_cons, firstOf, rules, List.findSome?_cons, brace, comment, number, dot, closing,
    escape, string, pair, start, stop, less]

/-- Before other characters no markup and no brace is left. -/
theorem step_of_not_mem (m : Mode) {c : Char} (r : List Char) (h : c ∉ ['{', '}', '<']) :
    step m (c :: r) =
      firstOf [commentRule, numberRule, dotRule, closingMarkRule, attributeEscapeRule, stringRule,
        pairRule, pragmaStartRule, pragmaEndRule, attributeRule, quoteRule, elementRule, blankRule,
        nameRule, singleRule] m c r := by
  simp only [List.mem_cons, List.not_mem_nil, or_false, not_or] at h
  obtain ⟨left, right, angle⟩ := h
  have brace : braceRule m (c :: r) = none := braceRule_of_not_mem (by simp [left, right])
  simp only [step_cons, firstOf, rules, List.findSome?_cons, brace, xmlCommentRule_of_ne angle,
    cdataRule_of_ne angle, instructionRule_of_ne angle, angleRule_of_ne angle,
    lessRule_of_ne angle]

theorem step_content {m : Mode} {c : Char} (r : List Char) (content : m.inContent = true)
    (h : c ∉ ['{', '}', '<']) :
    step m (c :: r) =
      firstOf [attributeEscapeRule, stringRule, pragmaEndRule, attributeRule, quoteRule,
        elementRule, blankRule, nameRule, singleRule] m c r := by
  have number : numberRule m (c :: r) = none := by simp [numberRule, content]
  have dot : dotRule m (c :: r) = none := by rw [dotRule, if_pos content]
  have closing : closingMarkRule m (c :: r) = none := by rw [closingMarkRule, if_pos content]
  have pair : pairRule m (c :: r) = none := by rw [pairRule, if_pos content]
  rw [step_of_not_mem m r h]
  simp only [firstOf, List.findSome?_cons, commentRule_of_content content, number, dot, closing,
    pair, pragmaStartRule_of_content content]

theorem isPlain_of_not_mem {c : Char} (h : c ∉ ['{', '}', '<']) (amp : c ≠ '&') :
    isPlain c = true := by
  simp only [List.mem_cons, List.not_mem_nil, or_false, not_or] at h
  simp [isPlain, h, amp]

theorem runOf_of_pos {kind : Kind} {p : Char → Bool} {c : Char} (r : List Char)
    (h : p c = true) : runOf kind p (c :: r) = some (.token kind (run p (c :: r))) := by
  rw [runOf, if_neg]
  exact Nat.ne_of_gt (run_pos h)

/-- Between tags all but braces, tags and the end of a pragma is a reference or text. -/
theorem step_element {m : Mode} {c : Char} (r : List Char) (context : m.context = .element)
    (h : c ∉ ['{', '}', '<']) :
    step m (c :: r) =
      if (m.pragma && (isBlank c || c == '#')) = true then pragmaEnd (c :: r)
      else if c = '&' then reference (c :: r)
      else .token .elementText (run isPlain (c :: r)) := by
  have content : m.inContent = true := by simp [Mode.inContent, context]
  have element : m.inElement = true := by simp [Mode.inElement, context]
  have other : ∀ d, m.context ≠ .attribute d := by simp [context]
  have string : stringRule m (c :: r) = none := by simp [stringRule, element]
  have quote : quoteRule m (c :: r) = none := by simp [quoteRule, element]
  rw [step_content r content h, firstOf_of_none (attributeEscapeRule_of_context other),
    firstOf_of_none string]
  split
  · next stop => exact firstOf_of_some (by simp only [pragmaEndRule, if_pos stop])
  · next stop =>
      rw [firstOf_of_none (by simp only [pragmaEndRule, if_neg stop]),
        firstOf_of_none (attributeRule_of_context other), firstOf_of_none quote]
      split
      · next amp => exact firstOf_of_some (by simp only [elementRule, context, if_pos amp])
      · next amp =>
          refine firstOf_of_some ?_
          simp only [elementRule, context, if_neg amp]
          exact runOf_of_pos r (isPlain_of_not_mem h amp)

theorem ofChar?_char (d : Delimiter) : Delimiter.ofChar? d.char = some d := by
  cases d <;> rfl

theorem delimiter_char_inj {d e : Delimiter} (same : d.char = e.char) : d = e := by
  have found := ofChar?_char d
  rw [same, ofChar?_char] at found
  exact (Option.some.inj found).symm

theorem attributeEscapeRule_eq {m : Mode} {d : Delimiter} (c : Char) (r : List Char)
    (context : m.context = .attribute d) :
    attributeEscapeRule m (c :: r) =
      if c = d.char ∧ r.head? = some d.char then some (.token (.escape d) 2) else none := by
  cases r <;> simp [attributeEscapeRule, context]

theorem attributeRule_eq {m : Mode} {d : Delimiter} {c : Char} (r : List Char)
    (context : m.context = .attribute d) (h : c ∉ ['{', '}', '<']) (amp : c ≠ '&') :
    attributeRule m (c :: r) =
      if c = d.char then none
      else some (.token .attributeText (run (fun x => x != d.char && isPlain x) (c :: r))) := by
  simp only [attributeRule, context, if_neg amp]
  split
  · next delimiter => simp [runOf, run, delimiter]
  · next other => exact runOf_of_pos r (by simp [other, isPlain_of_not_mem h amp])

/-- In an attribute value a doubled delimiter comes first, then strings where quotes open them; a
single delimiter is only left where they do not. -/
theorem step_attribute {m : Mode} {d : Delimiter} {c : Char} (r : List Char)
    (context : m.context = .attribute d) (h : c ∉ ['{', '}', '<']) :
    step m (c :: r) =
      if c = d.char ∧ r.head? = some d.char then .token (.escape d) 2
      else if ((Delimiter.ofChar? c).isSome && m.strings) = true then stringRest c 1 r
      else if (m.pragma && (isBlank c || c == '#')) = true then pragmaEnd (c :: r)
      else if c = '&' then reference (c :: r)
      else if c = d.char then .token (.quote d) 1
      else .token .attributeText (run (fun x => x != d.char && isPlain x) (c :: r)) := by
  have content : m.inContent = true := by simp [Mode.inContent, context]
  have element : m.inElement = false := by simp [Mode.inElement, context]
  rw [step_content r content h]
  split
  · next escape =>
      exact firstOf_of_some (by rw [attributeEscapeRule_eq c r context, if_pos escape])
  · next escape =>
      rw [firstOf_of_none (by rw [attributeEscapeRule_eq c r context, if_neg escape])]
      split
      · next opens => exact firstOf_of_some (by simp [stringRule, opens, element])
      · next opens =>
          rw [firstOf_of_none (by simpa [stringRule, element] using opens)]
          split
          · next stop => exact firstOf_of_some (by simp only [pragmaEndRule, if_pos stop])
          · next stop =>
              rw [firstOf_of_none (by simp only [pragmaEndRule, if_neg stop])]
              split
              · next amp =>
                  exact firstOf_of_some (by simp only [attributeRule, context, if_pos amp])
              · next amp =>
                  split
                  · next delimiter =>
                      rw [firstOf_of_none (by
                        rw [attributeRule_eq r context h amp, if_pos delimiter])]
                      refine firstOf_of_some ?_
                      subst delimiter
                      have off : m.strings = false := by simpa [ofChar?_char] using opens
                      simp [quoteRule, off, element, ofChar?_char]
                  · next other =>
                      exact firstOf_of_some (by
                        rw [attributeRule_eq r context h amp, if_neg other])

/-- In an expression the rules of content do not apply. -/
theorem step_expression {m : Mode} {c : Char} (r : List Char)
    (context : m.context = .expression) (h : c ∉ ['{', '}', '<']) :
    step m (c :: r) =
      firstOf [commentRule, numberRule, dotRule, closingMarkRule, stringRule, pairRule,
        pragmaStartRule, pragmaEndRule, quoteRule, blankRule, nameRule, singleRule] m c r := by
  have noValue : ∀ d, m.context ≠ .attribute d := by simp [context]
  have element : m.context ≠ .element := by simp [context]
  rw [step_of_not_mem m r h]
  simp only [firstOf, List.findSome?_cons, attributeEscapeRule_of_context noValue,
    attributeRule_of_context noValue, elementRule_of_context element]

section Expression

variable {m : Mode} (context : m.context = .expression)

include context

theorem not_inContent : m.inContent = false := by
  simp [Mode.inContent, context]

theorem not_inElement : m.inElement = false := by
  simp [Mode.inElement, context]

/-- Numbers come before all that could share their first character but braces and markup. -/
theorem step_number {input : List Char} (starts : startsNumber input = true) :
    step m input = number input := by
  obtain ⟨c, r, rfl⟩ : ∃ c r, input = c :: r := by
    refine List.exists_cons_of_ne_nil ?_
    rintro rfl
    cases starts
  have lead : c = '.' ∨ isDigit c = true := by
    by_cases dot : c = '.'
    · exact .inl dot
    · cases digit : isDigit c with
      | true => exact .inr rfl
      | false =>
          rw [startsNumber_of_ne dot digit] at starts
          contradiction
  have apart : c ∉ ['{', '}', '<'] ∧ c ≠ '(' := by
    rcases lead with rfl | digit
    · decide
    · have sign : isSign c = !true := isSign_of_isDigit digit
      exact ⟨not_mem_of_class sign (by decide), ne_of_class sign (by decide)⟩
  rw [step_expression r context apart.1, firstOf_of_none (commentRule_of_ne apart.2)]
  exact firstOf_of_some (by simp [numberRule, not_inContent context, starts])

theorem step_dot {r : List Char} (plain : startsNumber ('.' :: r) = false) :
    step m ('.' :: r) = firstOf [dotRule] m '.' r := by
  rw [step_expression r context (by decide), firstOf_of_none (commentRule_of_ne (by decide)),
    firstOf_of_none (by simp [numberRule, plain])]
  refine firstOf_of_isSome ?_
  simp [dotRule, not_inContent context, symbolAmong, dots]

theorem step_paren (r : List Char) :
    step m ('(' :: r) = firstOf [commentRule, pragmaStartRule, singleRule] m '(' r := by
  have number : numberRule m ('(' :: r) = none := numberRule_of_ne (by decide) (by decide)
  have dot : dotRule m ('(' :: r) = none := dotRule_of_ne (by decide)
  have closing : closingMarkRule m ('(' :: r) = none := closingMarkRule_of_not_mem (by decide)
  have string : stringRule m ('(' :: r) = none := stringRule_of_ne (by decide) (by decide)
  have pair : pairRule m ('(' :: r) = none := pairRule_of_not_mem (by decide)
  have stop : pragmaEndRule m ('(' :: r) = none := pragmaEndRule_of_ne (by decide) (by decide)
  have quote : quoteRule m ('(' :: r) = none := quoteRule_of_ne (by decide) (by decide)
  have blank : blankRule m ('(' :: r) = none := blankRule_of_ne (by decide)
  have name : nameRule m ('(' :: r) = none := nameRule_of_ne (isNameStart_of_isSign (by decide))
  rw [step_expression r context (by decide)]
  simp only [firstOf, List.findSome?_cons, number, dot, closing, string, pair, stop, quote, blank,
    name]

theorem step_quote (d : Delimiter) (r : List Char) :
    step m (d.char :: r) = if m.strings then stringRest d.char 1 r else .token (.quote d) 1 := by
  have lead : d.char ∉ ['{', '}', '<'] := by cases d <;> decide
  have comment : commentRule m (d.char :: r) = none := commentRule_of_ne (by cases d <;> decide)
  have number : numberRule m (d.char :: r) = none :=
    numberRule_of_ne (by cases d <;> decide) (by cases d <;> decide)
  have dot : dotRule m (d.char :: r) = none := dotRule_of_ne (by cases d <;> decide)
  have closing : closingMarkRule m (d.char :: r) = none :=
    closingMarkRule_of_not_mem (by cases d <;> decide)
  rw [step_expression r context lead, firstOf_of_none comment, firstOf_of_none number,
    firstOf_of_none dot, firstOf_of_none closing]
  split
  · next on =>
      exact firstOf_of_some (by simp [stringRule, ofChar?_char, on, not_inElement context])
  · next off =>
      have pair : pairRule m (d.char :: r) = none := pairRule_of_not_mem (by cases d <;> decide)
      have start : pragmaStartRule m (d.char :: r) = none :=
        pragmaStartRule_of_ne (by cases d <;> decide)
      have stop : pragmaEndRule m (d.char :: r) = none :=
        pragmaEndRule_of_ne (by cases d <;> decide) (by cases d <;> decide)
      rw [firstOf_of_none (by simp [stringRule, off]), firstOf_of_none pair,
        firstOf_of_none start, firstOf_of_none stop]
      exact firstOf_of_some (by simp [quoteRule, ofChar?_char, off, not_inElement context])

/-- Inside a pragma blanks belong to its end; elsewhere they are a token or passed over. -/
theorem step_blank {c : Char} (r : List Char) (blank : isBlank c = true) :
    step m (c :: r) =
      if m.pragma then pragmaEnd (c :: r)
      else if m.blanks then .token .blank (run isBlank (c :: r))
      else .skip (run isBlank (c :: r)) := by
  have ne : ∀ {d : Char}, isBlank d = false → c ≠ d :=
    fun other => ne_of_class (b := false) blank other
  have out : ∀ {l : List Char}, l.all (fun d => isBlank d == false) = true → c ∉ l :=
    fun others => not_mem_of_class (b := false) blank others
  have digit : isDigit c = false := isDigit_of_isSign (isSign_of_isBlank blank)
  rw [step_expression r context (out (by decide)),
    firstOf_of_none (commentRule_of_ne (ne (by decide))),
    firstOf_of_none (numberRule_of_ne (ne (by decide)) digit),
    firstOf_of_none (dotRule_of_ne (ne (by decide))),
    firstOf_of_none (closingMarkRule_of_not_mem (out (by decide))),
    firstOf_of_none (stringRule_of_ne (ne (by decide)) (ne (by decide))),
    firstOf_of_none (pairRule_of_not_mem (out (by decide))),
    firstOf_of_none (pragmaStartRule_of_ne (ne (by decide)))]
  split
  · next inside => exact firstOf_of_some (by simp [pragmaEndRule, inside, blank])
  · next outside =>
      rw [firstOf_of_none (by simp [pragmaEndRule, outside]),
        firstOf_of_none (quoteRule_of_ne (ne (by decide)) (ne (by decide)))]
      refine firstOf_of_some ?_
      simp [blankRule, outside, blank]

theorem step_name {c : Char} (r : List Char) (start : isNameStart c = true) :
    step m (c :: r) =
      .token (.ofName ((c :: r).take (1 + run isNameChar r))) (1 + run isNameChar r) := by
  have sign := isSign_of_isNameStart start
  have blank := isBlank_of_not_isSign sign
  have ne : ∀ {d : Char}, isSign d = true → c ≠ d :=
    fun other => ne_of_class (b := true) sign other
  have out : ∀ {l : List Char}, l.all (fun d => isSign d == true) = true → c ∉ l :=
    fun others => not_mem_of_class (b := true) sign others
  rw [step_expression r context (out (by decide)),
    firstOf_of_none (commentRule_of_ne (ne (by decide))),
    firstOf_of_none (numberRule_of_ne (ne (by decide)) (isDigit_of_isNameStart start)),
    firstOf_of_none (dotRule_of_ne (ne (by decide))),
    firstOf_of_none (closingMarkRule_of_not_mem (out (by decide))),
    firstOf_of_none (stringRule_of_ne (ne (by decide)) (ne (by decide))),
    firstOf_of_none (pairRule_of_not_mem (out (by decide))),
    firstOf_of_none (pragmaStartRule_of_ne (ne (by decide))),
    firstOf_of_none (pragmaEndRule_of_ne blank (ne (by decide))),
    firstOf_of_none (quoteRule_of_ne (ne (by decide)) (ne (by decide))),
    firstOf_of_none (blankRule_of_ne blank)]
  exact firstOf_of_some (by simp [nameRule, start])

/-- Signs with no rule of their own are told apart by their symbols only. -/
theorem step_sign {c : Char} (r : List Char) (sign : isSign c = true) (solid : isBlank c = false)
    (other : c ∉ ['{', '}', '<', '(', '.', '"', '\'']) (hash : c = '#' → m.pragma = false) :
    step m (c :: r) = firstOf [closingMarkRule, pairRule, singleRule] m c r := by
  simp only [List.mem_cons, List.not_mem_nil, or_false, not_or] at other
  obtain ⟨left, right, angle, paren, dot, quot, apos⟩ := other
  have stop : pragmaEndRule m (c :: r) = none := by
    by_cases same : c = '#'
    · simp [pragmaEndRule, hash same]
    · exact pragmaEndRule_of_ne solid same
  rw [step_expression r context (by simp [left, right, angle])]
  simp only [firstOf, List.findSome?_cons, commentRule_of_ne paren,
    numberRule_of_ne dot (isDigit_of_isSign sign), dotRule_of_ne dot, stringRule_of_ne quot apos,
    pragmaStartRule_of_ne paren, stop, quoteRule_of_ne quot apos, blankRule_of_ne solid,
    nameRule_of_ne (isNameStart_of_isSign sign)]

end Expression

end QueryScan.Scan
