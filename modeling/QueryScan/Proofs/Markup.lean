import QueryScan.Proofs.Sessions

/-! XML comments, CDATA sections and processing instructions. Behind the opening mark of one, and in
every mode, a call takes the text of the grammar that starts there; no other text of the grammar
does. Where there is none the call fails, and the opening mark is not read as a shorter token. -/
namespace QueryScan

open Grammar
open Unicode (isNameStart isNameChar)
open Text (run)

/-- A token of the kind `k`, or a fault. -/
def Step.TakesOnly (k : Kind) : Step → Prop
  | .token k' _ => k' = k
  | .skip _ => False
  | .fault _ => True

namespace Scan

variable (m : Mode) {w : List Char} (r : List Char)

/-! ### Steps by the opening mark -/

theorem step_xmlCommentMark :
    step m ('<' :: '!' :: '-' :: '-' :: r) = xmlCommentRest 4 r := by
  rw [step_angle]
  exact firstOf_of_some rfl

theorem step_cdataMark :
    step m ('<' :: '!' :: '[' :: 'C' :: 'D' :: 'A' :: 'T' :: 'A' :: '[' :: r) =
      match Text.find? [']', ']', '>'] r with
      | some n => .token .cdata (9 + n + 3)
      | none => .fault (.unterminated .cdata) := by
  rw [step_angle, firstOf_of_none rfl]
  exact firstOf_of_some rfl

theorem step_instructionMark {c : Char} (start : isNameStart c = true) :
    step m ('<' :: '?' :: c :: r) =
      instructionRest (3 + run isNameChar r) (r.drop (run isNameChar r)) := by
  rw [step_angle, firstOf_of_none rfl, firstOf_of_none rfl]
  exact firstOf_of_some (if_pos start)

theorem xmlCommentMark_takesOnly :
    (step m ('<' :: '!' :: '-' :: '-' :: r)).TakesOnly .comment := by
  rw [step_xmlCommentMark]
  cases found : xmlCommentRest 4 r with
  | token k n => exact (xmlCommentRest_split found).1
  | skip n => exact xmlCommentRest_ne_skip 4 n r found
  | fault cause => trivial

theorem cdataMark_takesOnly :
    (step m ('<' :: '!' :: '[' :: 'C' :: 'D' :: 'A' :: 'T' :: 'A' :: '[' :: r)).TakesOnly
      .cdata := by
  rw [step_cdataMark]
  split
  · rfl
  · trivial

theorem instructionMark_takesOnly {c : Char} (start : isNameStart c = true) :
    (step m ('<' :: '?' :: c :: r)).TakesOnly .instruction := by
  rw [step_instructionMark m r start]
  rcases instructionRest_cases (3 + run isNameChar r) (r.drop (run isNameChar r)) with
    ⟨_, found⟩ | ⟨_, -, found⟩ | ⟨_, _, _, -, -, -, found⟩
  · rw [found]; trivial
  · rw [found]; rfl
  · rw [found]; rfl

/-! ### Steps over whole constructs -/

theorem step_xmlComment (h : XmlComment w) : step m (w ++ r) = .token .comment w.length := by
  have fires := xmlCommentRule_append m h r
  obtain ⟨body, -, rfl⟩ := h
  rw [List.cons_append] at fires ⊢
  rw [step_angle, firstOf_of_some fires]

theorem step_cdata (h : Cdata w) : step m (w ++ r) = .token .cdata w.length := by
  have fires := cdataRule_append m h r
  obtain ⟨body, -, rfl⟩ := h
  rw [List.cons_append] at fires ⊢
  rw [step_angle, firstOf_of_none rfl, firstOf_of_some fires]

theorem step_instruction (h : Instruction w) :
    step m (w ++ r) = .token .instruction w.length := by
  have fires := instructionRule_append m h r
  obtain ⟨t, rfl⟩ : ∃ t, w = '<' :: '?' :: t := by
    obtain ⟨target, -, rfl | ⟨blanks, body, -, -, rfl⟩⟩ := h <;> exact ⟨_, rfl⟩
  rw [List.cons_append] at fires ⊢
  rw [step_angle, firstOf_of_none rfl, firstOf_of_none rfl, firstOf_of_some fires]

end Scan

namespace Scanner

/-- The next call takes a token of the kind `k` exactly when the text ahead starts with one of the
language. That start is the only one, and the text of the token; without it the call fails. -/
structure AcceptsExactly (s : Scanner) (k : Kind) (language : List Char → Prop) : Prop where
  accepted : (∃ t, s.next.1 = .ok t ∧ t.kind = k) ↔ ∃ w, language w ∧ w <+: s.cursor.rest
  unique : ∀ v w, language v → v <+: s.cursor.rest → language w → w <+: s.cursor.rest → v = w
  text : ∀ w, language w → w <+: s.cursor.rest → s.Takes k w
  refused : (∀ w, language w → ¬ w <+: s.cursor.rest) → ∃ e, s.next.1 = .error e

variable {s : Scanner}

/-- A language is accepted exactly when a step reads all of a text of it, whatever follows, and else
finds a fault. -/
theorem acceptsExactly {k : Kind} {language : List Char → Prop} (sound : s.failure = none)
    (lexemes : ∀ w, Lexeme s.mode k w → language w)
    (complete : ∀ w r, language w → Scan.step s.mode (w ++ r) = .token k w.length)
    (only : (Scan.step s.mode s.cursor.rest).TakesOnly k) : s.AcceptsExactly k language := by
  have read : ∀ w, language w → w <+: s.cursor.rest →
      Scan.step s.mode s.cursor.rest = .token k w.length := by
    rintro w member ⟨r, split⟩
    rw [← split]
    exact complete w r member
  have taken : ∀ w, language w → w <+: s.cursor.rest → s.Takes k w := fun w member ahead =>
    takes_of_step sound ahead (read w member ahead)
  -- A token would have been read from a text of the language.
  have outcome : (∃ w, language w ∧ w <+: s.cursor.rest) ∨ ∃ e, s.next.1 = .error e := by
    have reads := Scan.step_reads s.mode s.cursor.rest
    cases found : Scan.step s.mode s.cursor.rest with
    | token k' n =>
        rw [found] at only reads
        obtain ⟨w, r, split, -, lexeme⟩ := reads
        obtain rfl : k' = k := only
        exact .inl ⟨w, lexemes w lexeme, ⟨r, split.symm⟩⟩
    | skip n =>
        rw [found] at only
        exact only.elim
    | fault cause =>
        exact .inr ⟨_, congrArg Prod.fst (next_of_fault sound (settle_of_fault found))⟩
  refine ⟨⟨?_, ?_⟩, ?_, taken, ?_⟩
  · rintro ⟨t, given, -⟩
    rcases outcome with some | ⟨e, failed⟩
    · exact some
    · rw [given] at failed
      cases failed
  · rintro ⟨w, member, ahead⟩
    exact ⟨_, (taken w member ahead).given, rfl⟩
  · intro v w memberV aheadV memberW aheadW
    have same := (read v memberV aheadV).symm.trans (read w memberW aheadW)
    injection same with _ length
    exact (List.prefix_of_prefix_length_le aheadV aheadW (Nat.le_of_eq length)).eq_of_length length
  · intro none
    exact outcome.resolve_left fun ⟨w, member, ahead⟩ => none w member ahead

/-- In every mode an XML comment, a CDATA section or a processing instruction is taken exactly when
the text behind its opening mark goes on as the grammar says. -/
theorem next_markup (sound : s.failure = none) :
    (['<', '!', '-', '-'] <+: s.cursor.rest → s.AcceptsExactly .comment XmlComment) ∧
      (['<', '!', '[', 'C', 'D', 'A', 'T', 'A', '['] <+: s.cursor.rest →
        s.AcceptsExactly .cdata Cdata) ∧
      ∀ c, isNameStart c = true → ['<', '?', c] <+: s.cursor.rest →
        s.AcceptsExactly .instruction Instruction := by
  refine ⟨?_, ?_, ?_⟩
  · rintro ⟨r, split⟩
    refine acceptsExactly sound (fun _ => id) (fun _ r h => Scan.step_xmlComment _ r h) ?_
    rw [← split]
    exact Scan.xmlCommentMark_takesOnly s.mode r
  · rintro ⟨r, split⟩
    refine acceptsExactly sound (fun _ => id) (fun _ r h => Scan.step_cdata _ r h) ?_
    rw [← split]
    exact Scan.cdataMark_takesOnly s.mode r
  · rintro c start ⟨r, split⟩
    refine acceptsExactly sound (fun _ => id) (fun _ r h => Scan.step_instruction _ r h) ?_
    rw [← split]
    exact Scan.instructionMark_takesOnly s.mode r start

/-- A question mark before the closing mark belongs to the instruction, between tags as well. The
hyphen of an opening mark is not taken a second time, as a part of the closing one. -/
theorem next_markup_overlap :
    (Scanner.ofText "<?t ??>" { context := .element }).Takes .instruction
        ['<', '?', 't', ' ', '?', '?', '>'] ∧
      ∃ e, (Scanner.ofText "<!--->").next.1 = .error e := by
  have target : Name ['t'] := ⟨'t', [], rfl, by decide, by simp⟩
  have blank : Run Unicode.isBlank [' '] := ⟨by simp, by simp [Unicode.isBlank]⟩
  have instruction : Instruction ['<', '?', 't', ' ', '?', '?', '>'] :=
    ⟨['t'], target, .inr ⟨[' '], ['?'], blank, by decide, rfl⟩⟩
  have taken := (next_markup (s := .ofText "<?t ??>" { context := .element }) rfl).2.2 't'
    (by decide) ⟨[' ', '?', '?', '>'], rfl⟩
  have comment := (next_markup (s := .ofText "<!--->") rfl).1 ⟨['-', '>'], rfl⟩
  refine ⟨taken.text _ instruction List.prefix_rfl, comment.refused ?_⟩
  rintro w ⟨body, -, rfl⟩ ahead
  have short : ('<' :: '!' :: '-' :: '-' :: (body ++ ['-', '-', '>'])).length ≤ 6 := ahead.length_le
  simp only [List.length_cons, List.length_append, List.length_nil] at short
  omega

end Scanner

end QueryScan
