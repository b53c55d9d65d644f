import QueryScan.Proofs.RecognizedLiterals
import QueryScan.Proofs.RecognizedMarkup

/-! A dispatch with one cursor. The recognizers are tried one behind the other and nobody puts the
cursor back between them; still the dispatch takes the step that is told from the text ahead. -/
namespace QueryScan

namespace Scan

/-- The rules that a recognizer carries out, in the order of the recognizers. -/
def ruleGroups : List (List Rule) :=
  [[braceRule], [commentRule], [xmlCommentRule], [cdataRule], [numberRule, dotRule],
    [closingMarkRule], [instructionRule, angleRule], [attributeEscapeRule], [stringRule],
    [pairRule], [pragmaStartRule], [pragmaEndRule], [lessRule], [attributeRule], [quoteRule],
    [elementRule], [blankRule], [nameRule], [singleRule]]

theorem flatten_ruleGroups : ruleGroups.flatten = rules :=
  rfl

end Scan

section

open Scan Recognizer
open Reader (Performs Settles Ends)

variable {c : Cursor} {m : Mode} {pragma : Option Place} {x : Char} {r : List Char}

theorem tryAll_settles {readers : List (Reader (Option Verdict))} {groups : List (List Rule)}
    (h : List.Forall₂ (fun reader group =>
      reader.Performs c pragma (group.findSome? fun rule => rule m c.rest)) readers groups) :
    (tryAll x readers).Settles c pragma 0
      ((groups.flatten.findSome? fun rule => rule m c.rest).getD (.fault (.noViable 0 x))) := by
  induction h with
  | nil => exact settles_noViable x 0
  | @cons reader group readers groups performs _ ih =>
      rw [List.flatten_cons, List.findSome?_append]
      cases found : group.findSome? fun rule => rule m c.rest with
      | some s =>
          rw [found] at performs
          exact Ends.bind performs (Ends.pure _ _)
      | none =>
          rw [found] at performs
          exact Ends.bind performs ih

theorem recognizers_perform (ahead : c.rest = x :: r) :
    List.Forall₂ (fun reader group =>
      reader.Performs c pragma (group.findSome? fun rule => rule m c.rest))
      (recognizers m pragma (start c) x) ruleGroups := by
  simp only [recognizers, ruleGroups, List.forall₂_cons, List.findSome?_singleton, List.Forall₂.nil,
    and_true]
  exact ⟨character_performs (by decide) ahead, comment_performs ahead, xmlComment_performs,
    cdata_performs, number_performs_outside, symbol_performs_outside closingMarks,
    angle_performs_guarded ahead, attributeEscape_performs, string_performs ahead,
    symbol_performs_outside pairs, pragmaStart_performs ahead, pragmaEnd_performs ahead,
    character_performs (by decide) ahead, attributeContent_performs ahead, quote_performs ahead,
    elementContent_performs ahead, whitespace_performs ahead, name_performs ahead,
    character_performs (by decide) ahead⟩

theorem performs_of_mem {readers : List (Reader (Option Verdict))} {groups : List (List Rule)}
    (h : List.Forall₂ (fun reader group =>
      reader.Performs c pragma (group.findSome? fun rule => rule m c.rest)) readers groups)
    {reader : Reader (Option Verdict)} (member : reader ∈ readers) :
    ∃ found, reader.Performs c pragma found := by
  induction h with
  | nil => cases member
  | cons performs _ ih =>
      rcases List.mem_cons.mp member with rfl | later
      · exact ⟨_, performs⟩
      · exact ih later

/-- A recognizer that gives none has moved nothing. -/
theorem recognizer_unmatched (ahead : c.rest = x :: r) {reader : Reader (Option Verdict)}
    (member : reader ∈ recognizers m pragma (start c) x) {marks : List Cursor}
    (unmatched : (reader.run ⟨c, marks⟩).1 = none) : reader.Ends c none c := by
  -- What the recognizer gives is told by its rules, and only without a step it is none.
  obtain ⟨found, performs⟩ := performs_of_mem (recognizers_perform ahead) member
  cases found with
  | none => exact performs
  | some s =>
      rw [performs marks] at unmatched
      cases unmatched

theorem tryAll_refused {readers : List (Reader (Option Verdict))}
    (h : ∀ reader ∈ readers, reader.Ends c none c) :
    (tryAll x readers).Settles c pragma 0 (.fault (.noViable 0 x)) := by
  induction readers with
  | nil => exact settles_noViable x 0
  | cons reader readers ih =>
      obtain ⟨first, later⟩ := List.forall_mem_cons.mp h
      exact first.bind (ih later)

theorem endOfInput_settles (ended : c.rest = []) :
    (endOfInput m (pragma.getD c.place)).Settles c pragma 0 (step m c.rest) := by
  have last : step m c.rest = endStep m := by
    rw [ended]
    rfl
  rw [last]
  unfold endOfInput endStep
  split
  · exact settles_unterminated .pragma ended
  · exact settles_token .eof 0

/-- Recognizers that are tried one behind the other, with the cursor wherever the last one left it,
take the step that the text ahead tells. -/
theorem dispatch_settles (c : Cursor) (m : Mode) (pragma : Option Place) :
    (dispatch m pragma).Settles c pragma 0 (step m c.rest) := by
  have look := Reader.ends_current c
  refine (Reader.ends_place c).bind ((Reader.ends_rest c).bind ?_)
  cases ahead : c.rest with
  | nil =>
      rw [ahead] at look
      rw [← ahead]
      exact look.bind (endOfInput_settles ahead)
  | cons x r =>
      have whole : step m c.rest =
          (rules.findSome? fun rule => rule m c.rest).getD (.fault (.noViable 0 x)) := by
        rw [ahead]
        rfl
      have tried : (tryAll x (recognizers m pragma (start c) x)).Settles c pragma 0 _ :=
        tryAll_settles (recognizers_perform ahead)
      rw [ahead] at look
      rw [flatten_ruleGroups, ← whole] at tried
      rw [← ahead]
      exact look.bind tried

theorem dispatch_refused (ahead : c.rest = x :: r)
    (h : ∀ reader ∈ recognizers m pragma (start c) x, reader.Ends c none c) :
    (dispatch m pragma).Settles c pragma 0 (.fault (.noViable 0 x)) := by
  have look := Reader.ends_current c
  rw [ahead] at look
  exact (Reader.ends_place c).bind ((Reader.ends_rest c).bind (look.bind (tryAll_refused h)))

end

end QueryScan
