import QueryScan.Proofs.Comments
import QueryScan.Proofs.ConstructBodies
import QueryScan.Proofs.Faults
import QueryScan.Proofs.Markup

/-! Constructs that are cut short. What is left of a comment, a section or an instruction behind its
opening mark is an open construct, wherever the cut goes through it. Two cuts are told otherwise:
two hyphens before the end of the text, and a question mark there that follows a target at once,
are taken for characters that must not stand there, and not for the start of the closing mark. -/
namespace QueryScan

open Grammar
open Scan
open Unicode (isBlank isNameChar)
open Text (endsAtFirst_of_absent find?_of_cut run)

/-- The text is read as one whole construct, with nothing behind it. A pragma is more than one
token, and what is left of a string may be a string again. -/
def Construct.Consumed : Construct → List Char → Prop
  | .comment, w => Opens .comment w ∧ step {} w = .skip w.length
  | .xmlComment, w => step {} w = .token .comment w.length
  | .cdata, w => step {} w = .token .cdata w.length
  | .instruction, w => step {} w = .token .instruction w.length
  | .pragma, _ => False
  | .string, _ => False

/-- All but the last character of the closing mark is there, and is taken for something else. -/
inductive Misread : Construct → List Char → Prop
  | hyphens {body} : XmlCommentBody body →
      Misread .xmlComment ('<' :: '!' :: '-' :: '-' :: (body ++ ['-', '-']))
  | question {target} : Name target → Misread .instruction ('<' :: '?' :: (target ++ ['?']))

namespace Scan

/-! ### What is left of a construct -/

theorem step_target (m : Mode) {target t : List Char} (name : Name target)
    (stop : run isNameChar t = 0) :
    step m ('<' :: '?' :: (target ++ t)) = instructionRest (2 + target.length) t := by
  rw [step_angle, firstOf_of_none rfl, firstOf_of_none rfl]
  exact firstOf_of_some (instructionRule_target m name stop)

/-- A single hyphen at the end is still inside the comment. -/
theorem xmlCommentRest_of_cut {body p : List Char} (h : XmlCommentBody body) (read : Nat)
    (cut : p <+: body ++ ['-']) : xmlCommentRest read p = .fault (.unterminated .xmlComment) := by
  induction h generalizing p read with
  | nil =>
      rcases List.prefix_concat_iff.mp cut with rfl | none
      · rfl
      · rw [List.prefix_nil.mp none]
        rfl
  | plain other _ ih =>
      cases p with
      | nil => rfl
      | cons c p =>
          obtain ⟨rfl, behind⟩ := List.cons_prefix_cons.mp cut
          rw [xmlCommentRest_cons _ _ other, ih _ behind]
  | hyphen other _ ih =>
      match p, cut with
      | [], _ => rfl
      | [c], cut =>
          obtain ⟨rfl, -⟩ := List.cons_prefix_cons.mp cut
          rfl
      | c :: d :: p, cut =>
          obtain ⟨rfl, second⟩ := List.cons_prefix_cons.mp cut
          obtain ⟨rfl, behind⟩ := List.cons_prefix_cons.mp second
          rw [xmlCommentRest_hyphen _ _ other, ih _ behind]

theorem xmlCommentRest_hyphens {body : List Char} (h : XmlCommentBody body) (read : Nat) :
    xmlCommentRest read (body ++ ['-', '-']) = .fault (.noViable (read + body.length + 1) '-') := by
  induction h generalizing read with
  | nil => rfl
  | plain other _ ih =>
      rw [List.cons_append, xmlCommentRest_cons _ _ other, ih, List.length_cons]
      congr 2
      omega
  | hyphen other _ ih =>
      rw [List.cons_append, List.cons_append, xmlCommentRest_hyphen _ _ other, ih,
        List.length_cons, List.length_cons]
      congr 2
      omega

/-- Behind a target only a lone question mark is not inside the instruction. -/
theorem instructionRest_of_cut {inner p : List Char} (lead : ∀ c ∈ inner.head?, isBlank c = true)
    (without : ¬ ['?', '>'] <:+: inner) (read : Nat) (cut : p <+: inner ++ ['?', '>'])
    (proper : p ≠ inner ++ ['?', '>']) :
    instructionRest read p = .fault (.unterminated .instruction) ∨ inner = [] ∧ p = ['?'] := by
  have missing := find?_of_cut (by simp)
    (endsAtFirst_of_absent instructionEnd_unbordered without) cut proper
  cases p with
  | nil => exact .inl rfl
  | cons c p =>
      cases inner with
      | nil =>
          obtain ⟨rfl, behind⟩ := List.cons_prefix_cons.mp cut
          rcases List.prefix_concat_iff.mp (show p <+: [] ++ ['>'] from behind) with rfl | none
          · exact absurd rfl proper
          · exact .inr ⟨rfl, by rw [List.prefix_nil.mp none]⟩
      | cons x inner =>
          obtain ⟨rfl, -⟩ := List.cons_prefix_cons.mp cut
          have blank := lead c rfl
          refine .inl ?_
          rw [instructionRest.eq_def]
          split
          · next same =>
              rw [(List.cons.inj same).1, isBlank_question] at blank
              contradiction
          · rfl
          · next same =>
              obtain ⟨rfl, rfl⟩ := List.cons.inj same
              rw [if_pos blank, missing]

end Scan

/-! ### One step -/

theorem Misread.step {construct : Construct} {p : List Char} (h : Misread construct p) :
    ∃ front found, p = front ++ [found] ∧
      Scan.step {} p = .fault (.noViable front.length found) := by
  cases h with
  | @hyphens body valid =>
      refine ⟨'<' :: '!' :: '-' :: '-' :: (body ++ ['-']), '-', by simp, ?_⟩
      rw [step_xmlCommentMark, xmlCommentRest_hyphens valid]
      simp only [List.length_cons, List.length_append, List.length_nil]
      congr 2
      omega
  | @question target name =>
      refine ⟨'<' :: '?' :: target, '?', by simp, ?_⟩
      have lone (read : Nat) : instructionRest read ['?'] = .fault (.noViable read '?') := rfl
      rw [step_target {} name (Text.run_cons_of_neg _ (by decide)), lone, List.length_cons,
        List.length_cons]
      congr 2
      omega

/-- A cut goes through the target and leaves a name, or it goes through what is behind the
target. -/
theorem name_of_cut {target inner p : List Char} (name : Name target) (ne : p ≠ [])
    (cut : p <+: target ++ inner) :
    ∃ front behind, p = front ++ behind ∧ Name front ∧
      (behind = [] ∨ front = target ∧ behind <+: inner) := by
  rcases List.prefix_or_prefix_of_prefix cut (List.prefix_append target inner) with short | long
  · obtain ⟨c, r, rfl, start, all⟩ := name
    obtain ⟨x, p, rfl⟩ := List.exists_cons_of_ne_nil ne
    obtain ⟨rfl, behind⟩ := List.cons_prefix_cons.mp short
    refine ⟨x :: p, [], by simp, ⟨x, p, rfl, start, ?_⟩, .inl rfl⟩
    intro y member
    exact all y (behind.subset member)
  · obtain ⟨behind, rfl⟩ := long
    exact ⟨target, behind, rfl, name, .inr ⟨rfl, (List.prefix_append_right_inj target).mp cut⟩⟩

section

variable {w p : List Char}

/-- The opening mark is in front of both texts, so the cut goes through what is behind it. -/
theorem cut_behind (mark : List Char) {r body : List Char} (cut : mark ++ r <+: mark ++ body)
    (proper : mark ++ r ≠ mark ++ body) : r <+: body ∧ r ≠ body := by
  refine ⟨(List.prefix_append_right_inj mark).mp cut, ?_⟩
  rintro rfl
  exact proper rfl

theorem comment_cut (h : Comment w) (cut : p <+: w) (proper : p ≠ w) (opens : Opens .comment p) :
    step {} p = .fault (.unterminated .comment) := by
  obtain ⟨body, valid, rfl⟩ := h
  obtain ⟨r, rfl⟩ := opens
  obtain ⟨behind, short⟩ := cut_behind ['(', ':'] cut proper
  exact (step_commentMark rfl r).trans (by rw [commentRest_of_cut valid behind short])

theorem xmlComment_cut (h : XmlComment w) (cut : p <+: w) (proper : p ≠ w)
    (opens : Opens .xmlComment p) :
    step {} p = .fault (.unterminated .xmlComment) ∨ Misread .xmlComment p := by
  obtain ⟨body, valid, rfl⟩ := h
  obtain ⟨r, rfl⟩ := opens
  -- The closing mark is taken off from its end, one character at a time.
  have spelled : '<' :: '!' :: '-' :: '-' :: (body ++ ['-', '-', '>']) =
      ['<', '!', '-', '-'] ++ (body ++ ['-'] ++ ['-'] ++ ['>']) := by simp
  rw [spelled] at cut proper
  obtain ⟨behind, short⟩ := cut_behind ['<', '!', '-', '-'] cut proper
  rcases List.prefix_concat_iff.mp behind with same | left
  · exact absurd same short
  rcases List.prefix_concat_iff.mp left with rfl | left
  · refine .inr ?_
    simpa using Misread.hyphens valid
  · exact .inl ((step_xmlCommentMark {} r).trans (xmlCommentRest_of_cut valid 4 left))

theorem cdata_cut (h : Cdata w) (cut : p <+: w) (proper : p ≠ w) (opens : Opens .cdata p) :
    step {} p = .fault (.unterminated .cdata) := by
  obtain ⟨body, without, rfl⟩ := h
  obtain ⟨r, rfl⟩ := opens
  obtain ⟨behind, short⟩ :=
    cut_behind ['<', '!', '[', 'C', 'D', 'A', 'T', 'A', '['] cut proper
  have missing := find?_of_cut (by simp) (endsAtFirst_of_absent cdataEnd_unbordered without)
    behind short
  exact (step_cdataMark {} r).trans (by rw [missing])

theorem instruction_cut (h : Instruction w) (cut : p <+: w) (proper : p ≠ w)
    (opens : Opens .instruction p) :
    step {} p = .fault (.unterminated .instruction) ∨ Misread .instruction p := by
  obtain ⟨target, inner, rfl, name, lead, without⟩ := h.inner
  obtain ⟨c, -, r, rfl⟩ := opens
  have behind : c :: r <+: target ++ (inner ++ ['?', '>']) :=
    (List.prefix_append_right_inj ['<', '?']).mp cut
  obtain ⟨front, rest, split, named, place⟩ := name_of_cut name (List.cons_ne_nil c r) behind
  have text : ['<', '?', c] ++ r = '<' :: '?' :: (front ++ rest) := by rw [← split]; rfl
  rw [text] at proper ⊢
  rcases place with rfl | ⟨rfl, left⟩
  · exact .inl (step_target {} named rfl)
  · have short : rest ≠ inner ++ ['?', '>'] := by
      rintro rfl
      exact proper rfl
    rcases instructionRest_of_cut lead without (2 + front.length) left short with
      found | ⟨rfl, rfl⟩
    · refine .inl ((step_target {} named ?_).trans found)
      cases rest with
      | nil => rfl
      | cons x t =>
          obtain ⟨u, whole⟩ := left
          have ends := ends_of_lead lead x (by simp [← whole])
          exact Text.run_cons_of_neg t (isNameChar_of_ends ends)
    · exact .inr (.question named)

end

theorem lexeme_of_step {m : Mode} {k : Kind} {w : List Char} (h : step m w = .token k w.length) :
    Lexeme m k w := by
  have reads := step_reads m w
  rw [h] at reads
  exact Step.Reads.lexeme (r := []) (by rwa [List.append_nil])

/-- Blanks are passed over as well, but they do not open a comment. -/
theorem comment_of_step {m : Mode} {w : List Char} (opens : Opens .comment w)
    (h : step m w = .skip w.length) : Comment w := by
  have reads := step_reads m w
  rw [h] at reads
  obtain ⟨v, r, split, length, trivia⟩ := reads
  obtain ⟨rfl, -⟩ := List.append_inj (split.symm.trans (List.append_nil w).symm) length.symm
  rcases trivia with comment | ⟨-, -, blanks⟩
  · exact comment
  · obtain ⟨t, rfl⟩ := opens
    exact absurd (blanks.2 '(' List.mem_cons_self) (by decide)

theorem step_of_cut {construct : Construct} {w p : List Char} (whole : construct.Consumed w)
    (cut : p <+: w) (proper : p ≠ w) (opens : Opens construct p) :
    step {} p = .fault (.unterminated construct) ∨ Misread construct p := by
  cases construct with
  | comment => exact .inl (comment_cut (comment_of_step whole.1 whole.2) cut proper opens)
  | xmlComment => exact xmlComment_cut (lexeme_of_step whole) cut proper opens
  | cdata => exact .inl (cdata_cut (lexeme_of_step whole) cut proper opens)
  | instruction => exact instruction_cut (lexeme_of_step whole) cut proper opens
  | pragma | string => exact absurd whole id

namespace Scanner

theorem tokenize_of_fault {text : String} {cause : Fault}
    (found : Scan.step {} text.toList = .fault cause) :
    (Scanner.ofText text).tokenize = .error (cause.locate (.ofText text) none) := by
  have called := next_of_fault (s := Scanner.ofText text) rfl (settle_of_fault found)
  rw [tokenize, collect_unfold, pull_of_error rfl called]
  rfl

theorem locate_unterminated (text : String) {construct : Construct}
    (outside : construct ≠ .pragma) :
    (Fault.unterminated construct).locate (.ofText text) none =
      .unterminated construct ⟨0, text.utf8ByteSize, 1, 1⟩ := by
  have stop := (Cursor.In.ofText text).offset_end
  simp only [Fault.locate, if_neg outside, stop]
  rfl

theorem locate_last {text : String} {front : List Char} {found : Char}
    (split : text.toList = front ++ [found]) :
    (Fault.noViable front.length found).locate (.ofText text) none =
      .noViableToken found
        ((({} : Place).after front).upTo text.utf8ByteSize) := by
  have place : ((Cursor.ofText text).forward front.length).place = ({} : Place).after front := by
    rw [Cursor.forward_place]
    change ({} : Place).after (text.toList.take front.length) = _
    rw [split, List.take_left]
  have ahead : ((Cursor.ofText text).forward front.length).rest = [found] := by
    rw [Cursor.forward_rest]
    change text.toList.drop front.length = _
    rw [split, List.drop_left]
  have stop := ((Cursor.In.ofText text).forward front.length).offset_end
  rw [place, ahead, Text.byteLength_cons, Text.byteLength_nil, Nat.add_zero] at stop
  simp only [Fault.locate, place, stop]

/-- A construct that is cut short behind its opening mark is reported as open from its start to the
end of the text, unless all but the last character of its closing mark is misread. Then the last
character of the text is reported as unexpected. -/
theorem tokenize_truncated {construct : Construct} {w p : String}
    (whole : construct.Consumed w.toList) (cut : p.toList <+: w.toList) (proper : p ≠ w)
    (opens : Opens construct p.toList) :
    (¬ Misread construct p.toList → (Scanner.ofText p).tokenize =
      .error (.unterminated construct ⟨0, p.utf8ByteSize, 1, 1⟩)) ∧
    (Misread construct p.toList → ∃ front found, p.toList = front ++ [found] ∧
      (Scanner.ofText p).tokenize =
        .error (.noViableToken found ((({} : Place).after front).upTo p.utf8ByteSize))) := by
  constructor
  · intro read
    have proper' : p.toList ≠ w.toList := fun same => proper (String.toList_inj.mp same)
    have found := (step_of_cut whole cut proper' opens).resolve_right read
    rw [tokenize_of_fault found, locate_unterminated]
    rintro rfl
    exact whole
  · intro misread
    obtain ⟨front, found, split, fault⟩ := misread.step
    exact ⟨front, found, split, by rw [tokenize_of_fault fault, locate_last split]⟩

/-- The cut goes through the closing mark, and a bracket before it belongs to the section. -/
theorem tokenize_truncated_cdata :
    Construct.Consumed .cdata "<![CDATA[]]]>".toList ∧
      (Scanner.ofText "<![CDATA[]]]").tokenize =
        .error (.unterminated .cdata ⟨0, 12, 1, 1⟩) := by
  have whole : Construct.Consumed .cdata "<![CDATA[]]]>".toList := rfl
  have left := tokenize_truncated (p := "<![CDATA[]]]") whole ⟨['>'], rfl⟩ (by decide)
    ⟨[']', ']', ']'], rfl⟩
  exact ⟨whole, left.1 nofun⟩

/-- A comment of which only the last character is cut off is not reported as open. -/
theorem cut_comment_misread :
    Construct.Consumed .xmlComment "<!--a-->".toList ∧ "<!--a--".toList <+: "<!--a-->".toList ∧
      "<!--a--" ≠ "<!--a-->" ∧ Opens .xmlComment "<!--a--".toList ∧
      (Scanner.ofText "<!--a--").tokenize = .error (.noViableToken '-' ⟨6, 7, 1, 7⟩) ∧
      (Scanner.ofText "<!--a--").tokenize ≠ .error (.unterminated .xmlComment ⟨0, 7, 1, 1⟩) := by
  have fault : step {} "<!--a--".toList = .fault (.noViable 6 '-') := rfl
  have given : (Scanner.ofText "<!--a--").tokenize = .error (.noViableToken '-' ⟨6, 7, 1, 7⟩) := by
    rw [tokenize_of_fault fault]
    rfl
  refine ⟨rfl, ⟨['>'], rfl⟩, by decide, ⟨['a', '-', '-'], rfl⟩, given, ?_⟩
  rw [given]
  nofun

end Scanner

end QueryScan
