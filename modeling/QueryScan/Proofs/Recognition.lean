import QueryScan.Proofs.Recognizers
import Mathlib.Data.List.Find

/-! Every recognizer comes to the step of its rules, in the same place and with the same error, and
one that gives none has moved nothing. So a dispatch that never puts the cursor back takes the step
that is told from the text ahead. -/
namespace QueryScan

/-- How many of the characters ahead are read by a step. -/
def Step.reach (input : List Char) : Step → Nat
  | .token _ n => n
  | .skip n => n
  | .fault cause => cause.reach input

/-- What a step comes to when the token was begun at `c`. -/
def Step.verdict (c : Cursor) (pragma : Option Place) : Step → Verdict
  | .token kind _ => .token kind
  | .skip _ => .skipped
  | .fault cause => .failed (cause.locate c pragma)

namespace Reader

/-- From the cursor at which the token was begun the reader takes the step; none moves nothing. -/
def Performs (reader : Reader (Option Verdict)) (c : Cursor) (pragma : Option Place)
    (found : Option Step) : Prop :=
  reader.Ends c (found.map (Step.verdict c pragma)) (c.forward (found.elim 0 (Step.reach c.rest)))

/-- The reader takes the step, of which `n` characters have been read. -/
def Settles (reader : Reader Verdict) (c : Cursor) (pragma : Option Place) (n : Nat) (s : Step) :
    Prop :=
  reader.Ends (c.forward n) (s.verdict c pragma) (c.forward (s.reach c.rest))

end Reader

namespace Recognizer

open Reader (once Performs Settles Ends)
open Scan
open Unicode (isBlank isDigit isNameStart isNameChar)
open Text (run signLength)

variable {c : Cursor} {pragma : Option Place} {m : Mode}

def start (c : Cursor) : Start :=
  ⟨c.place, c.rest⟩

/-! ### Errors -/

theorem settles_token (kind : Kind) (n : Nat) :
    Settles (pure (.token kind)) c pragma n (.token kind n) :=
  fun _ => rfl

theorem settles_noViable (found : Char) (n : Nat) :
    (noViable found).Settles c pragma n (.fault (.noViable n found)) :=
  fun _ => rfl

/-- The end of the text is as far from every point of it. -/
theorem end_forward (c : Cursor) (n : Nat) :
    (c.forward n).place.offset + Text.byteLength (c.forward n).rest =
      c.place.offset + Text.byteLength c.rest := by
  rw [Cursor.forward_place, Cursor.forward_rest, Place.offset_after, Nat.add_assoc,
    ← Text.byteLength_append, List.take_append_drop]

theorem forward_end {n : Nat} (ended : c.rest.drop n = []) :
    c.forward n = c.forward c.rest.length := by
  have le : c.rest.length ≤ n := List.drop_eq_nil_iff.mp ended
  rw [Cursor.forward_eq, Cursor.forward_eq, List.take_of_length_le le, ended, List.take_length,
    List.drop_length]

/-- The place from which an open construct is blamed. -/
def blamed (c : Cursor) (pragma : Option Place) (construct : Construct) : Place :=
  if construct = .pragma then pragma.getD c.place else c.place

theorem settles_unterminated {n : Nat} (construct : Construct) (ended : c.rest.drop n = []) :
    (unterminated construct (blamed c pragma construct)).Settles c pragma n
      (.fault (.unterminated construct)) := by
  intro marks
  show (_, _) = _
  rw [forward_end ended]
  show (Verdict.failed (.unterminated construct ((blamed c pragma construct).upTo
    ((c.forward c.rest.length).place.offset + Text.byteLength (c.forward c.rest.length).rest))),
    _) = _
  rw [end_forward]
  rfl

theorem ends_textSince (c : Cursor) {n : Nat} (le : n ≤ c.rest.length) :
    (textSince (start c)).Ends (c.forward n) (c.rest.take n) (c.forward n) := by
  have length : c.rest.length - (c.forward n).rest.length = n := by
    rw [Cursor.forward_rest, List.length_drop, Nat.sub_sub_self le]
  intro marks
  show (List.take (c.rest.length - (c.forward n).rest.length) c.rest, _) = _
  rw [length]
  rfl

theorem settles_malformedNumber {n : Nat} (le : n ≤ c.rest.length) :
    (malformedNumber (start c)).Settles c pragma n (.fault (.malformedNumber n)) :=
  (ends_textSince c le).bind fun _ => rfl

theorem probe_eq (probe : Cursor) {r : List Char} (ahead : probe.rest = '&' :: r) :
    let looked := probe.advance.eatWhile fun c => c == '#' || c.isAlphanum
    (looked.eat? ';').getD looked = probe.forward (referenceLook r) := by
  have behind : probe.advance.rest = r := Cursor.rest_behind (t := ['&']) ahead
  have looked : (probe.advance.eatWhile fun c => c == '#' || c.isAlphanum) =
      probe.forward (1 + run (fun c => c == '#' || c.isAlphanum) r) := by
    rw [← Cursor.forward_forward, Cursor.eatWhile, behind]
    rfl
  have rest : (probe.forward (1 + run (fun c => c == '#' || c.isAlphanum) r)).rest =
      r.drop (run (fun c => c == '#' || c.isAlphanum) r) := by
    rw [Cursor.forward_rest, ahead, Nat.add_comm, List.drop_succ_cons]
  simp only [looked, Cursor.eat?, Cursor.isAt, Cursor.current?, rest, referenceLook, beq_iff_eq]
  split
  · exact Cursor.forward_forward probe _ 1
  · rfl

/-- A copy that has forgotten what was read counts on as the cursor does. -/
theorem settles_malformedReference {n : Nat} {r : List Char} (ahead : c.rest.drop n = '&' :: r) :
    malformedReference.Settles c pragma n (.fault (.malformedReference n (referenceLook r))) := by
  rw [← Cursor.forward_rest] at ahead
  have copied : ((Cursor.mk [] (c.forward n).rest (c.forward n).place).forward
      (referenceLook r)).place = ((c.forward n).forward (referenceLook r)).place := by
    rw [Cursor.forward_place (Cursor.mk _ _ _), Cursor.forward_place (c.forward n)]
  have probed := probe_eq ⟨[], (c.forward n).rest, (c.forward n).place⟩ ahead
  refine (Reader.ends_place _).bind ((Reader.ends_rest _).bind ?_)
  dsimp only at probed ⊢
  rw [probed, copied]
  exact Ends.pure _ _

/-! ### Some way into a token -/

section

variable {n : Nat} {t r input : List Char} {x : Char}

theorem drop_behind (ahead : c.rest.drop n = t ++ r) : c.rest.drop (n + t.length) = r := by
  rw [← List.drop_drop, ahead, List.drop_left]

theorem drop_nil (ended : c.rest.drop n = []) (k : Nat) : c.rest.drop (n + k) = [] := by
  rw [← List.drop_drop, ended, List.drop_nil]

theorem drop_next (ahead : c.rest.drop n = x :: r) : c.rest.drop (n + 1) = r :=
  drop_behind (t := [x]) ahead

theorem ends_text (ahead : c.rest.drop n = t ++ r) :
    (once (.eatText t)).Ends (c.forward n) true (c.forward (n + t.length)) := by
  rw [← Cursor.forward_forward]
  exact Reader.ends_eatText ((Cursor.forward_rest c n).trans ahead)

theorem ends_text_of_not (other : ¬ t <+: c.rest.drop n) :
    (once (.eatText t)).Ends (c.forward n) false (c.forward n) := by
  rw [← Cursor.forward_rest] at other
  exact Reader.ends_eatText_of_not other

theorem ends_step (ahead : c.rest.drop n = input) :
    (once .advance).Ends (c.forward n) input.head? (c.forward (n + 1)) := by
  rw [← ahead, ← Cursor.forward_rest, ← Cursor.forward_forward]
  exact Reader.ends_advance (c.forward n)

theorem ends_starts (t : List Char) (ahead : c.rest.drop n = input) :
    (once (.startsWith t)).Ends (c.forward n) (t.isPrefixOf input) (c.forward n) := by
  rw [← ahead, ← Cursor.forward_rest]
  exact Reader.ends_startsWith t (c.forward n)

theorem ends_look (ahead : c.rest.drop n = input) :
    (once .current).Ends (c.forward n) input.head? (c.forward n) := by
  rw [← ahead, ← Cursor.forward_rest]
  exact Reader.ends_current (c.forward n)

theorem ends_character (ahead : c.rest.drop n = x :: r) :
    (once (.eat x)).Ends (c.forward n) true (c.forward (n + 1)) := by
  rw [← Cursor.forward_forward]
  exact Reader.ends_eat ((Cursor.forward_rest c n).trans ahead)

theorem ends_character_of_ne (other : ∀ r, c.rest.drop n ≠ x :: r) :
    (once (.eat x)).Ends (c.forward n) false (c.forward n) := by
  rw [← Cursor.forward_rest] at other
  exact Reader.ends_eat_of_ne other

theorem either_ends (first second : Char) (c : Cursor) (n : Nat) :
    let found := (c.rest.drop n).head? == some first || (c.rest.drop n).head? == some second
    (either first second).Ends (c.forward n) found (c.forward (n + found.toNat)) := by
  cases ahead : c.rest.drop n with
  | nil =>
      exact (ends_character_of_ne (by simp [ahead])).bind (ends_character_of_ne (by simp [ahead]))
  | cons x r =>
      by_cases isFirst : x = first
      · subst isFirst
        simp only [List.head?_cons, beq_self_eq_true, Bool.true_or]
        exact (ends_character ahead).bind (Ends.pure _ _)
      · have notFirst := ends_character_of_ne (c := c) (n := n) (x := first)
          (by simp [ahead, isFirst])
        by_cases isSecond : x = second
        · subst isSecond
          simp only [List.head?_cons, beq_self_eq_true, Bool.or_true]
          exact notFirst.bind (ends_character ahead)
        · have found : (some x == some first || some x == some second) = false := by
            simp [isFirst, isSecond]
          simp only [List.head?_cons, found]
          exact notFirst.bind (ends_character_of_ne (by simp [ahead, isSecond]))

theorem ends_run (p : Char → Bool) (ahead : c.rest.drop n = input) :
    (once (.eatWhile p)).Ends (c.forward n) (run p input) (c.forward (n + run p input)) := by
  rw [← ahead, ← Cursor.forward_rest, ← Cursor.forward_forward]
  exact Reader.ends_eatWhile p (c.forward n)

theorem not_pair {a b : Char} (other : ∀ t, x = a → r = b :: t → False) :
    ¬ [a, b] <+: x :: r := by
  rintro ⟨t, same⟩
  cases same
  exact other t rfl rfl

/-- While there is text ahead there are passes left. -/
theorem passes_left {passes : Nat} (enough : c.rest.length ≤ n + passes)
    (ahead : c.rest.drop n = x :: r) : ∃ k, passes = k + 1 := by
  have length := congrArg List.length ahead
  rw [List.length_drop, List.length_cons] at length
  exact Nat.exists_eq_add_one_of_ne_zero (by omega)

end

/-! ### Parts -/

theorem certain_performs {reader : Reader Verdict} {s : Step} (h : reader.Settles c pragma 0 s) :
    (certain reader).Performs c pragma (some s) :=
  Ends.bind h (Ends.pure _ _)

theorem guarded_performs {condition : Bool} {reader : Reader (Option Verdict)}
    {found : Option Step} (on : condition = true → reader.Performs c pragma found)
    (off : condition = false → found = none) :
    (guarded condition reader).Performs c pragma found := by
  cases condition with
  | true => exact on rfl
  | false =>
      rw [off rfl]
      exact Ends.pure none c

theorem outside_performs {reader : Reader (Option Verdict)} {found : Option Step}
    (outside : m.inContent = false → reader.Performs c pragma found)
    (inside : m.inContent = true → found = none) :
    (guarded (!m.inContent) reader).Performs c pragma found :=
  guarded_performs (fun on => outside (by simpa using on)) fun off => inside (by simpa using off)

theorem certain_performs_guarded {condition : Bool} {reader : Reader Verdict} {s : Step}
    (h : condition = true → reader.Settles c pragma 0 s) :
    (guarded condition (certain reader)).Performs c pragma
      (if condition then some s else none) := by
  cases condition with
  | true => exact certain_performs (h rfl)
  | false => exact Ends.pure none c

theorem opened_performs {text : List Char} {reader : Reader Verdict} {found : Option Step}
    (here : ∀ r, c.rest = text ++ r → ∃ s, found = some s ∧ reader.Settles c pragma 0 s)
    (other : ¬ text <+: c.rest → found = none) : (opened text reader).Performs c pragma found := by
  refine (Reader.ends_startsWith text c).bind ?_
  cases ahead : text.isPrefixOf c.rest with
  | true =>
      obtain ⟨r, split⟩ := List.isPrefixOf_iff_prefix.mp ahead
      obtain ⟨s, rfl, settles⟩ := here r split.symm
      exact certain_performs settles
  | false =>
      have missing : found = none := other fun start => by
        rw [List.isPrefixOf_iff_prefix.mpr start] at ahead
        cases ahead
      rw [missing]
      exact Ends.pure none c

theorem symbol_performs (table : List (List Char × Symbol)) :
    (symbol table).Performs c pragma (symbolAmong table c.rest) := by
  induction table with
  | nil => exact Ends.pure none c
  | cons entry table ih =>
      obtain ⟨text, symbol⟩ := entry
      by_cases start : text <+: c.rest
      · have found : symbolAmong ((text, symbol) :: table) c.rest =
            some (.token (.symbol symbol) text.length) := by
          simp [symbolAmong, start]
        obtain ⟨r, ahead⟩ := start
        rw [found]
        exact (Reader.ends_eatText ahead.symm).bind (Ends.pure _ _)
      · have skipped : symbolAmong ((text, symbol) :: table) c.rest =
            symbolAmong table c.rest := by
          simp [symbolAmong, start]
        rw [skipped]
        exact (Reader.ends_eatText_of_not start).bind ih

theorem character_performs {table : List (List Char × Symbol)} {x : Char} {r : List Char}
    (single : ∀ entry ∈ table, entry.1.length = 1) (ahead : c.rest = x :: r) :
    (character table x).Performs c pragma (symbolAmong table c.rest) := by
  -- A text of one character is ahead exactly when it is the character that is.
  have same : (table.find? fun entry => entry.1.isPrefixOf c.rest) =
      table.find? fun entry => entry.1 == [x] := by
    refine List.find?_congr fun entry member => ?_
    obtain ⟨y, text⟩ := List.length_eq_one_iff.mp (single entry member)
    rw [text, ahead]
    simp [List.isPrefixOf]
  unfold character symbolAmong
  rw [same]
  cases found : table.find? fun entry => entry.1 == [x] with
  | none => exact Ends.pure none c
  | some entry =>
      have length : entry.1.length = 1 := single entry (List.mem_of_find?_eq_some found)
      simp only [Option.map_some, length]
      exact (Reader.ends_advance c).bind (Ends.pure _ _)

/-- A rule of symbols that holds outside content only. -/
theorem symbol_performs_outside (table : List (List Char × Symbol)) :
    (guarded (!m.inContent) (symbol table)).Performs c pragma
      (if m.inContent then none else symbolAmong table c.rest) := by
  cases m.inContent with
  | true => exact Ends.pure none c
  | false => exact symbol_performs table

theorem find?_go_shift (mark : List Char) (k : Nat) (cs : List Char) :
    Text.find?.go mark k cs = (Text.find? mark cs).map (k + ·) := by
  induction cs generalizing k with
  | nil =>
      rw [Text.find?, Text.find?.go, Text.find?.go]
      split <;> rfl
  | cons x cs ih =>
      rw [Text.find?, Text.find?.go, Text.find?.go]
      split
      · rfl
      · rw [ih (k + 1), ih (0 + 1), Option.map_map]
        simp only [Function.comp_def, Nat.zero_add, Nat.add_assoc]

/-- Characters that the mark does not start with are passed over when it is looked for. -/
theorem find?_behind_run {p : Char → Bool} {a : Char} (mark : List Char) (solid : p a = false)
    (input : List Char) : Text.find? (a :: mark) input =
      (Text.find? (a :: mark) (input.drop (run p input))).map (run p input + ·) := by
  induction input with
  | nil => rfl
  | cons x input ih =>
      cases member : p x with
      | true =>
          have passed : (a :: mark).isPrefixOf (x :: input) = false := by
            have other : a ≠ x := by
              rintro rfl
              rw [solid] at member
              cases member
            simp [List.isPrefixOf, other]
          have next : Text.find? (a :: mark) (x :: input) =
              (Text.find? (a :: mark) input).map (1 + ·) := by
            rw [Text.find?, Text.find?.go, passed, ← find?_go_shift]
            rfl
          rw [next, ih, Option.map_map, Text.run_cons_of_pos input member, List.drop_succ_cons]
          simp only [Function.comp_def, Nat.add_left_comm 1, Nat.add_assoc]
      | false =>
          rw [Text.run_cons_of_neg input member, List.drop_zero]
          simp

theorem closed_settles (c : Cursor) (pragma : Option Place) (mark : List Char) (kind : Kind)
    (construct : Construct) (n : Nat) :
    (closed mark kind construct (blamed c pragma construct)).Settles c pragma n
      (match Text.find? mark (c.rest.drop n) with
        | some k => .token kind (n + k + mark.length)
        | none => .fault (.unterminated construct)) := by
  cases found : Text.find? mark (c.rest.drop n) with
  | some k =>
      rw [← Cursor.forward_rest] at found
      -- The search stops before the mark, which is then eaten.
      obtain ⟨w, r, split, rfl, start, -⟩ := Text.find?_go_first found
      obtain ⟨t, rfl⟩ := start
      have marked : ((c.forward n).forward (0 + w.length)).rest = mark ++ t := by
        rw [Nat.zero_add]
        exact Cursor.rest_behind split
      have whole : ((c.forward n).forward (0 + w.length)).forward mark.length =
          c.forward (n + (0 + w.length) + mark.length) := by
        rw [Cursor.forward_forward, Cursor.forward_forward, ← Nat.add_assoc]
      have closes : Ends (do
          let _ ← once (.eatText mark)
          return .token kind) ((c.forward n).forward (0 + w.length)) (Verdict.token kind)
          (c.forward (n + (0 + w.length) + mark.length)) := by
        rw [← whole]
        exact (Reader.ends_eatText marked).bind (Ends.pure _ _)
      exact (Reader.ends_eatUntil found).bind closes
  | none =>
      rw [← Cursor.forward_rest] at found
      refine (Reader.ends_eatUntil_of_none found).bind ?_
      rw [Cursor.forward_forward]
      refine settles_unterminated construct ?_
      rw [← List.drop_drop, Cursor.forward_rest, List.drop_length]

theorem content_performs (kind : Kind) (p : Char → Bool) :
    (content kind p).Performs c pragma (runOf kind p c.rest) := by
  refine (Reader.ends_eatWhile p c).bind ?_
  by_cases empty : run p c.rest = 0
  · rw [runOf, if_pos empty, empty]
    exact Ends.pure none c
  · rw [runOf, if_neg empty, if_pos (Nat.pos_of_ne_zero empty)]
    exact Ends.pure _ _

theorem reference_settles {r : List Char} (ahead : c.rest = '&' :: r) :
    reference.Settles c pragma 0 (Scan.reference c.rest) := by
  have read : Scan.referenceReader.Ends c _ _ := referenceReader_run c
  refine read.bind ?_
  rw [Scan.reference]
  cases found : reference? c.rest with
  | some given => exact Ends.pure _ _
  | none =>
      rw [ahead]
      exact settles_malformedReference (n := 0) ahead

end Recognizer

end QueryScan
