import QueryScan.Proofs.Recognition

/-! Comments, pragmas, blanks and markup, recognized with a cursor. The loops over the body of a
comment are followed pass by pass, with as many passes at hand as there are characters ahead. -/
namespace QueryScan.Recognizer

open Reader (once Performs Settles Ends)
open Scan
open Unicode (isBlank isNameStart isNameChar)
open Text (run)

variable {c : Cursor} {pragma : Option Place} {m : Mode}

/-! ### Comments, pragmas and blanks -/

theorem commentBody_closed (passes : Nat) (n : Nat) :
    (commentBody (start c) passes 0).Settles c pragma n (.skip n) := by
  cases passes <;> exact Ends.pure _ _

theorem commentBody_settles {passes depth n : Nat} (enough : c.rest.length ≤ n + passes) :
    (commentBody (start c) passes (depth + 1)).Settles c pragma n
      (match commentRest depth n (c.rest.drop n) with
        | some k => .skip k
        | none => .fault (.unterminated .comment)) := by
  -- The induction is that of the scan over the text. A pass reads at least one character, so what is
  -- left of the passes stays enough for what is left of the text.
  generalize ahead : c.rest.drop n = input
  fun_induction commentRest depth n input generalizing passes with
  | case1 depth read r ih =>
      obtain ⟨k, rfl⟩ := passes_left enough ahead
      have later := @ih k (by omega) (drop_behind (t := ['(', ':']) ahead)
      exact (ends_text (t := ['(', ':']) ahead).bind later
  | case2 read r =>
      obtain ⟨k, rfl⟩ := passes_left enough ahead
      have other : ¬ ['(', ':'] <+: c.rest.drop read := by simp [ahead]
      exact (ends_text_of_not other).bind
        ((ends_text (t := [':', ')']) ahead).bind (commentBody_closed k (read + 2)))
  | case3 read r depth ih =>
      obtain ⟨k, rfl⟩ := passes_left enough ahead
      have other : ¬ ['(', ':'] <+: c.rest.drop read := by simp [ahead]
      have later := @ih k (by omega) (drop_behind (t := [':', ')']) ahead)
      exact (ends_text_of_not other).bind ((ends_text (t := [':', ')']) ahead).bind later)
  | case4 depth read x r notOpen notClose ih =>
      obtain ⟨k, rfl⟩ := passes_left enough ahead
      have opens : ¬ ['(', ':'] <+: c.rest.drop read := ahead ▸ not_pair notOpen
      have closes : ¬ [':', ')'] <+: c.rest.drop read := ahead ▸ not_pair notClose
      have later := @ih k (by omega) (drop_next ahead)
      exact (ends_text_of_not opens).bind ((ends_text_of_not closes).bind
        ((ends_step ahead).bind later))
  | case5 depth read =>
      cases passes with
      | zero => exact settles_unterminated .comment ahead
      | succ k =>
          have opens : ¬ ['(', ':'] <+: c.rest.drop read := by simp [ahead]
          have closes : ¬ [':', ')'] <+: c.rest.drop read := by simp [ahead]
          exact (ends_text_of_not opens).bind ((ends_text_of_not closes).bind
            ((ends_step ahead).bind (settles_unterminated .comment (drop_nil ahead 1))))

theorem pragmaStart_settles {r : List Char} (ahead : c.rest = '(' :: '#' :: r) :
    pragmaStart.Settles c pragma 0 (.token .pragmaStart (2 + run isBlank r)) := by
  have behind : (c.forward 2).rest = r := Cursor.rest_behind (t := ['(', '#']) ahead
  have blanks := Reader.ends_eatWhile isBlank (c.forward 2)
  rw [behind, Cursor.forward_forward] at blanks
  exact (Reader.ends_eatText (t := ['(', '#']) ahead).bind (blanks.bind (Ends.pure _ _))

/-- No blank is part of the mark, so blanks may be read before it is looked for. -/
theorem closed_behind_blanks (c : Cursor) (pragma : Option Place) {a : Char}
    (solid : isBlank a = false) (mark : List Char) (kind : Kind) (construct : Construct) (n : Nat) :
    Settles (do
      let _ ← once (.eatWhile isBlank)
      closed (a :: mark) kind construct (blamed c pragma construct)) c pragma n
      (match Text.find? (a :: mark) (c.rest.drop n) with
        | some k => .token kind (n + k + (a :: mark).length)
        | none => .fault (.unterminated construct)) := by
  have closes := closed_settles c pragma (a :: mark) kind construct
    (n + run isBlank (c.rest.drop n))
  rw [← List.drop_drop] at closes
  rw [find?_behind_run mark solid]
  refine (ends_run isBlank rfl).bind ?_
  cases found : Text.find? (a :: mark) ((c.rest.drop n).drop (run isBlank (c.rest.drop n))) with
  | some k =>
      rw [found] at closes
      dsimp only at closes
      rw [Nat.add_assoc n] at closes
      exact closes
  | none =>
      rw [found] at closes
      exact closes

theorem pragmaEnd_settles :
    (pragmaEnd (blamed c pragma .pragma)).Settles c pragma 0 (Scan.pragmaEnd c.rest) := by
  have closes := closed_behind_blanks c pragma (a := '#') (by decide) [')'] .pragmaEnd .pragma 0
  rw [List.drop_zero] at closes
  have isAt : (once (.isAt '#')).Ends c (c.rest.head? == some '#') c := fun _ => rfl
  generalize ahead : c.rest = input at isAt closes
  unfold Scan.pragmaEnd
  split
  · exact (Reader.ends_eatText (t := ['#', ')']) ahead).bind (Ends.pure _ _)
  · next other =>
      have notClosed : ¬ ['#', ')'] <+: c.rest := by
        rw [ahead]
        rintro ⟨t, same⟩
        cases same
        exact other t rfl
      exact (Reader.ends_eatText_of_not notClosed).bind (isAt.bind (settles_noViable '#' 0))
  · next closing hash =>
      have notClosed : ¬ ['#', ')'] <+: c.rest := by
        rw [ahead]
        rintro ⟨t, same⟩
        exact closing t same.symm
      have blank : (input.head? == some '#') = false := by
        rw [beq_eq_false_iff_ne]
        intro head
        obtain ⟨t, rfl⟩ := List.head?_eq_some_iff.mp head
        exact hash t rfl
      rw [blank] at isAt
      simp only [Nat.zero_add] at closes
      exact (Reader.ends_eatText_of_not notClosed).bind (isAt.bind closes)

theorem whitespace_settles :
    (whitespace m).Settles c pragma 0
      (if m.blanks then .token .blank (run isBlank c.rest) else .skip (run isBlank c.rest)) := by
  refine (Reader.ends_eatWhile isBlank c).bind ?_
  cases m.blanks <;> exact Ends.pure _ _

theorem comment_performs {x : Char} {r : List Char} (ahead : c.rest = x :: r) :
    (guarded (!m.inContent) (opened ['(', ':'] (comment (start c)))).Performs c pragma
      (commentRule m c.rest) := by
  refine outside_performs (fun outside => opened_performs (fun t split => ?_) fun other => ?_)
    fun inside => ?_
  · have behind : c.rest.drop 2 = t := by rw [split]; rfl
    have body : (commentBody (start c) c.rest.length 1).Settles c pragma 2 _ :=
      commentBody_settles (Nat.le_add_left _ _)
    rw [behind] at body
    refine ⟨_, ?_, (Reader.ends_eatText split).bind body⟩
    rw [split]
    simp only [commentRule, List.cons_append, outside]
    rfl
  · unfold commentRule
    split
    · next t same => exact absurd ⟨t, same.symm⟩ other
    · rfl
  · rw [ahead]
    exact commentRule_of_content inside

theorem pragmaStart_performs {x : Char} {r : List Char} (ahead : c.rest = x :: r) :
    (guarded (!m.inContent) (opened ['(', '#'] pragmaStart)).Performs c pragma
      (pragmaStartRule m c.rest) := by
  refine outside_performs (fun outside => opened_performs
    (fun t split => ⟨_, ?_, pragmaStart_settles split⟩) fun other => ?_) fun inside => ?_
  · rw [split]
    simp only [pragmaStartRule, List.cons_append, outside]
    rfl
  · unfold pragmaStartRule
    split
    · next t same => exact absurd ⟨t, same.symm⟩ other
    · rfl
  · rw [ahead]
    exact pragmaStartRule_of_content inside

theorem pragmaEnd_performs {x : Char} {r : List Char} (ahead : c.rest = x :: r) :
    (guarded (m.pragma && (isBlank x || x == '#'))
      (certain (pragmaEnd (pragma.getD c.place)))).Performs c pragma
        (pragmaEndRule m c.rest) := by
  have rule : pragmaEndRule m c.rest =
      if m.pragma && (isBlank x || x == '#') then some (Scan.pragmaEnd c.rest) else none := by
    rw [ahead]
    rfl
  rw [rule]
  exact certain_performs_guarded fun _ => pragmaEnd_settles

theorem whitespace_performs {x : Char} {r : List Char} (ahead : c.rest = x :: r) :
    (guarded (!m.pragma && isBlank x) (certain (whitespace m))).Performs c pragma
      (blankRule m c.rest) := by
  have rule : blankRule m c.rest = if !m.pragma && isBlank x then
      some (if m.blanks then .token .blank (run isBlank c.rest)
        else .skip (run isBlank c.rest)) else none := by
    rw [ahead]
    rfl
  rw [rule]
  exact certain_performs_guarded fun _ => whitespace_settles

/-! ### Markup -/

theorem xmlCommentBody_settles {passes n : Nat} (enough : c.rest.length ≤ n + passes) :
    (xmlCommentBody (start c) passes).Settles c pragma n (xmlCommentRest n (c.rest.drop n)) := by
  generalize ahead : c.rest.drop n = input
  fun_induction xmlCommentRest n input generalizing passes with
  | case1 read r =>
      obtain ⟨k, rfl⟩ := passes_left enough ahead
      exact (ends_text (t := ['-', '-', '>']) ahead).bind (Ends.pure _ _)
  | case2 read r notClosed =>
      obtain ⟨k, rfl⟩ := passes_left enough ahead
      have closes : ¬ ['-', '-', '>'] <+: c.rest.drop read := by
        rw [ahead]
        rintro ⟨t, same⟩
        cases same
        exact notClosed t rfl
      exact (ends_text_of_not closes).bind ((ends_starts ['-', '-'] ahead).bind
        ((ends_step ahead).bind (settles_noViable '-' (read + 1))))
  | case3 read x r notClosed notHyphens ih =>
      obtain ⟨k, rfl⟩ := passes_left enough ahead
      have closes : ¬ ['-', '-', '>'] <+: c.rest.drop read := by
        rw [ahead]
        rintro ⟨t, same⟩
        cases same
        exact notClosed t rfl rfl
      have single : ['-', '-'].isPrefixOf (x :: r) = false := by
        rw [Bool.eq_false_iff, ne_eq, List.isPrefixOf_iff_prefix]
        exact not_pair notHyphens
      have hyphens := ends_starts ['-', '-'] ahead
      rw [single] at hyphens
      have later := @ih k (by omega) (drop_next ahead)
      exact (ends_text_of_not closes).bind (hyphens.bind ((ends_step ahead).bind later))
  | case4 read =>
      cases passes with
      | zero => exact settles_unterminated .xmlComment ahead
      | succ k =>
          have closes : ¬ ['-', '-', '>'] <+: c.rest.drop read := by simp [ahead]
          exact (ends_text_of_not closes).bind ((ends_starts ['-', '-'] ahead).bind
            ((ends_step ahead).bind (settles_unterminated .xmlComment (drop_nil ahead 1))))

theorem xmlComment_performs :
    (opened ['<', '!', '-', '-'] (xmlComment (start c))).Performs c pragma
      (xmlCommentRule m c.rest) := by
  refine opened_performs (fun t split => ?_) fun other => ?_
  · have behind : c.rest.drop 4 = t := by rw [split]; rfl
    have body : (xmlCommentBody (start c) c.rest.length).Settles c pragma 4 _ :=
      xmlCommentBody_settles (Nat.le_add_left _ _)
    rw [behind] at body
    refine ⟨_, ?_, (Reader.ends_eatText split).bind body⟩
    rw [split]
    rfl
  · unfold xmlCommentRule
    split
    · next t same => exact absurd ⟨t, same.symm⟩ other
    · rfl

theorem cdata_settles {r : List Char}
    (ahead : c.rest = ['<', '!', '[', 'C', 'D', 'A', 'T', 'A', '['] ++ r) :
    (cdata (start c)).Settles c pragma 0
      (match Text.find? [']', ']', '>'] r with
        | some n => .token .cdata (9 + n + 3)
        | none => .fault (.unterminated .cdata)) := by
  have behind : c.rest.drop 9 = r := by rw [ahead]; rfl
  have closes := closed_settles c pragma [']', ']', '>'] .cdata .cdata 9
  rw [behind] at closes
  exact (Reader.ends_eatText ahead).bind closes

theorem cdata_performs :
    (opened ['<', '!', '[', 'C', 'D', 'A', 'T', 'A', '['] (cdata (start c))).Performs c pragma
      (cdataRule m c.rest) := by
  refine opened_performs (fun t split => ⟨_, ?_, cdata_settles split⟩) fun other => ?_
  · rw [split]
    rfl
  · unfold cdataRule
    split
    · next t same => exact absurd ⟨t, same.symm⟩ other
    · rfl

theorem instructionTail_settles (c : Cursor) (pragma : Option Place) (n : Nat) :
    (instructionTail (start c)).Settles c pragma n (instructionRest n (c.rest.drop n)) := by
  have closes := closed_behind_blanks c pragma (a := '?') (by decide) ['>'] .instruction
    .instruction n
  generalize ahead : c.rest.drop n = input at closes
  unfold instructionRest
  split
  · exact (ends_text (t := ['?', '>']) ahead).bind (Ends.pure _ _)
  · have other : ¬ ['?', '>'] <+: c.rest.drop n := by simp [ahead]
    exact (ends_text_of_not other).bind ((ends_look ahead).bind
      (settles_unterminated .instruction ahead))
  · next x r notClosed =>
      have other : ¬ ['?', '>'] <+: c.rest.drop n := ahead ▸ not_pair notClosed
      refine (ends_text_of_not other).bind ((ends_look ahead).bind ?_)
      dsimp only [List.head?_cons]
      split
      · exact closes
      · exact settles_noViable x n

theorem instruction_settles {x : Char} {r : List Char} (ahead : c.rest = '<' :: '?' :: x :: r) :
    (instruction (start c)).Settles c pragma 0
      (instructionRest (3 + run isNameChar r) (r.drop (run isNameChar r))) := by
  have behind : c.rest.drop 3 = r := by rw [ahead]; rfl
  have tail := instructionTail_settles c pragma (3 + run isNameChar r)
  rw [← List.drop_drop, behind] at tail
  exact (Reader.ends_eatText (t := ['<', '?']) ahead).bind
    ((ends_step (n := 2) rfl).bind ((ends_run isNameChar behind).bind tail))

theorem instructionRule_of_not {r : List Char}
    (other : ¬ (('<' :: r)[1]? = some '?' ∧ ('<' :: r)[2]?.any isNameStart = true)) :
    instructionRule m ('<' :: r) = none := by
  unfold instructionRule
  split
  · next x t same =>
      cases same
      exact if_neg fun name => other ⟨rfl, name⟩
  · rfl

theorem angle_performs {r : List Char} (ahead : c.rest = '<' :: r) :
    (angle (start c)).Performs c pragma
      ([instructionRule, angleRule].findSome? fun rule => rule m c.rest) := by
  have second := Reader.ends_lookahead 2 c
  have third := Reader.ends_lookahead 3 c
  by_cases opens : c.rest[1]? = some '?' ∧ c.rest[2]?.any isNameStart = true
  · obtain ⟨x, t, rfl, name⟩ : ∃ x t, r = '?' :: x :: t ∧ isNameStart x = true := by
      rw [ahead] at opens
      match r, opens with
      | y :: x :: t, ⟨mark, name⟩ => exact ⟨x, t, by simpa using mark, name⟩
    have found : ([instructionRule, angleRule].findSome? fun rule => rule m c.rest) =
        some (instructionRest (3 + run isNameChar t) (t.drop (run isNameChar t))) := by
      rw [ahead]
      simp only [List.findSome?_cons, instructionRule, name, if_true]
    rw [found]
    refine second.bind (third.bind ?_)
    rw [if_pos opens]
    exact certain_performs (instruction_settles ahead)
  · have found : ([instructionRule, angleRule].findSome? fun rule => rule m c.rest) =
        symbolAmong angles c.rest := by
      rw [ahead] at opens ⊢
      rw [List.findSome?_cons, instructionRule_of_not opens]
      exact List.findSome?_singleton
    rw [found]
    refine second.bind (third.bind ?_)
    rw [if_neg opens]
    exact symbol_performs angles

theorem angle_performs_guarded {x : Char} {r : List Char} (ahead : c.rest = x :: r) :
    (guarded (x == '<') (angle (start c))).Performs c pragma
      ([instructionRule, angleRule].findSome? fun rule => rule m c.rest) := by
  refine guarded_performs (fun mark => ?_) fun other => ?_
  · rw [beq_iff_eq] at mark
    exact angle_performs (mark ▸ ahead)
  · have ne : x ≠ '<' := by simpa using other
    rw [ahead]
    simp [instructionRule_of_ne ne, angleRule_of_ne ne]

theorem attributeEscapeRule_of_ahead {d : Delimiter} (context : m.context = .attribute d)
    (input : List Char) : attributeEscapeRule m input =
      if input[0]? = some d.char ∧ input[1]? = some d.char then some (.token (.escape d) 2)
      else none := by
  unfold attributeEscapeRule
  rw [context]
  match input with
  | [] => rfl
  | [a] => simp
  | a :: b :: r => simp

theorem attributeEscape_performs :
    (attributeEscape m).Performs c pragma (attributeEscapeRule m c.rest) := by
  cases context : m.context with
  | expression | element =>
      unfold attributeEscape attributeEscapeRule Mode.delimiter?
      rw [context]
      exact Ends.pure none c
  | «attribute» d =>
      have delimiter : m.delimiter? = some d := by rw [Mode.delimiter?, context]
      unfold attributeEscape
      rw [attributeEscapeRule_of_ahead context, delimiter]
      refine (Reader.ends_lookahead 1 c).bind ((Reader.ends_lookahead 2 c).bind ?_)
      by_cases doubled : c.rest[0]? = some d.char ∧ c.rest[1]? = some d.char
      · rw [if_pos doubled, if_pos doubled]
        exact (ends_step (n := 0) rfl).bind ((ends_step (n := 1) rfl).bind (Ends.pure _ _))
      · rw [if_neg doubled, if_neg doubled]
        exact Ends.pure none c

theorem attributeContent_performs {x : Char} {r : List Char} (ahead : c.rest = x :: r) :
    (attributeContent m x).Performs c pragma (attributeRule m c.rest) := by
  unfold attributeContent attributeRule Mode.delimiter?
  cases m.context with
  | expression | element => exact Ends.pure none c
  | «attribute» d =>
      rw [ahead]
      dsimp only
      split
      · next mark =>
          rw [← ahead]
          exact certain_performs (reference_settles (mark ▸ ahead))
      · rw [← ahead]
        exact content_performs _ _

theorem quote_performs {x : Char} {r : List Char} (ahead : c.rest = x :: r) :
    (quote m x).Performs c pragma (quoteRule m c.rest) := by
  unfold quote quoteRule
  rw [ahead]
  dsimp only
  cases Delimiter.ofChar? x with
  | none =>
      simp only [Option.map_none, ite_self]
      exact Ends.pure none c
  | some d =>
      cases m.strings || m.inElement with
      | true => exact Ends.pure none c
      | false => exact (Reader.ends_advance c).bind (Ends.pure _ _)

theorem elementContent_performs {x : Char} {r : List Char} (ahead : c.rest = x :: r) :
    (elementContent m x).Performs c pragma (elementRule m c.rest) := by
  unfold elementContent elementRule Mode.inElement
  cases m.context with
  | expression | «attribute» d => exact Ends.pure none c
  | element =>
      rw [ahead]
      dsimp only
      split
      · next mark =>
          rw [← ahead]
          exact certain_performs (reference_settles (mark ▸ ahead))
      · rw [← ahead]
        exact content_performs _ _

end QueryScan.Recognizer
