import QueryScan.Proofs.StringContent
import QueryScan.Proofs.StringPieces
import Mathlib.Data.List.Chain

/-! The segments of a string. Splitting is a second pass with rules of its own: an ampersand opens a
reference wherever a semicolon follows, and a single delimiter is text. It loses nothing of any
text. On what the scanner has accepted the looser rules make no difference, and the segments are the
pieces that the scanner took, with plain characters gathered into runs. -/
namespace QueryScan

open Grammar
open Scan

namespace Segment

/-- The characters that the segment was split from. -/
def written : Segment → List Char
  | .text cs => cs
  | .escaped d => [d, d]
  | .entity n => '&' :: (n ++ [';'])
  | .charRef v => v

def isText : Segment → Bool
  | .text _ => true
  | _ => false

/-- A text character by character, and every other segment as a whole. -/
def pieces : Segment → List (List Char)
  | .text cs => cs.map fun c => [c]
  | s => [s.written]

/-- What the segments of a literal with delimiter `d` may hold. -/
def Valid (d : Char) : Segment → Prop
  | .text cs => ∀ c ∈ cs, c ≠ d ∧ c ≠ '&'
  | .escaped e => e = d
  | .entity n => String.ofList n ∈ ["lt", "gt", "amp", "quot", "apos"]
  | .charRef v => CharRef v

/-- The segments are valid, and hold just these pieces. -/
structure Gathers (d : Char) (segments : List Segment) (ps : List (List Char)) : Prop where
  valid : ∀ s ∈ segments, s.Valid d
  pieces : segments.flatMap Segment.pieces = ps

/-- No text is empty, and no two stand side by side. -/
structure Canonical (segments : List Segment) : Prop where
  filled : ∀ cs, .text cs ∈ segments → cs ≠ []
  apart : segments.IsChain fun a b => ¬ (a.isText = true ∧ b.isText = true)

theorem written_ofReference (name : List Char) :
    (ofReference name).written = '&' :: (name ++ [';']) := by
  unfold ofReference
  split <;> rfl

theorem isText_ofReference (name : List Char) : (ofReference name).isText = false := by
  unfold ofReference
  split <;> rfl

/-! ### Any text -/

theorem flatMap_written_flush (pending : List Char) :
    (flush pending).flatMap written = pending.reverse := by
  cases pending with
  | nil => rfl
  | cons c cs => simp [flush, written]

theorem flatMap_written_go (d : Char) (pending cs : List Char) :
    (split.go d pending cs).flatMap written = pending.reverse ++ cs := by
  fun_induction split.go d pending cs with
  | case1 pending => rw [flatMap_written_flush, List.append_nil]
  | case2 pending c r doubled ih =>
      obtain ⟨rfl, again⟩ := doubled
      obtain ⟨t, rfl⟩ := List.head?_eq_some_iff.mp again
      rw [List.flatMap_append, List.flatMap_cons, flatMap_written_flush, ih]
      rfl
  | case3 pending r n found piece other ih =>
      obtain ⟨name, u, rfl, rfl, -⟩ := Text.find?_eq_some (List.cons_ne_nil _ _) found
      have named : piece = ofReference name := ofReference_eq name u
      rw [drop_reference] at ih ⊢
      rw [List.flatMap_append, List.flatMap_cons, flatMap_written_flush, ih, named,
        written_ofReference]
      simp
  | case4 pending r missing other ih => rw [ih, List.reverse_cons, List.append_assoc]; rfl
  | case5 pending c r other amp ih => rw [ih, List.reverse_cons, List.append_assoc]; rfl

namespace Canonical

variable {s : Segment} {rest : List Segment}

theorem cons (h : Canonical rest) (other : s.isText = false) : Canonical (s :: rest) := by
  constructor
  · intro cs member
    rcases List.mem_cons.mp member with rfl | later
    · cases other
    · exact h.filled cs later
  · refine List.isChain_cons.mpr ⟨?_, h.apart⟩
    rintro b - ⟨text, -⟩
    rw [other] at text
    contradiction

theorem text_cons (h : Canonical (s :: rest)) (other : s.isText = false) {cs : List Char}
    (ne : cs ≠ []) : Canonical (.text cs :: s :: rest) := by
  constructor
  · intro ds member
    rcases List.mem_cons.mp member with same | later
    · cases same
      exact ne
    · exact h.filled ds later
  · refine List.isChain_cons_cons.mpr ⟨?_, h.apart⟩
    rintro ⟨-, text⟩
    rw [other] at text
    contradiction

theorem flush_cons (h : Canonical rest) (other : s.isText = false) (pending : List Char) :
    Canonical (flush pending ++ s :: rest) := by
  cases pending with
  | nil => exact h.cons other
  | cons c cs => exact (h.cons other).text_cons other (by simp)

end Canonical

theorem canonical_flush (pending : List Char) : Canonical (flush pending) := by
  cases pending with
  | nil => exact ⟨nofun, .nil⟩
  | cons c cs =>
      refine ⟨?_, .singleton _⟩
      intro ds member
      cases List.mem_singleton.mp member
      simp

theorem canonical_go (d : Char) (pending cs : List Char) :
    Canonical (split.go d pending cs) := by
  fun_induction split.go d pending cs with
  | case1 pending => exact canonical_flush pending
  | case2 pending c r doubled ih => exact ih.flush_cons rfl pending
  | case3 pending r n found piece other ih =>
      obtain ⟨name, u, rfl, rfl, -⟩ := Text.find?_eq_some (List.cons_ne_nil _ _) found
      have named : piece = ofReference name := ofReference_eq name u
      exact ih.flush_cons (named ▸ isText_ofReference name) pending
  | case4 pending r missing other ih => exact ih
  | case5 pending c r other amp ih => exact ih

/-! ### Accepted text -/

/-- A reference is one segment, of the kind that its text has. -/
theorem valid_ofReference (d : Char) {name : List Char}
    (form : EntityRef ('&' :: (name ++ [';'])) ∨ CharRef ('&' :: (name ++ [';']))) :
    (ofReference name).Valid d := by
  rcases form with ⟨n, member, same⟩ | char
  · obtain rfl : name = n := List.append_cancel_right (List.cons.inj same).2
    have known : name.head? ≠ some '#' ∧
        String.ofList name ∈ ["lt", "gt", "amp", "quot", "apos"] := by
      rcases member with rfl | rfl | rfl | rfl | rfl <;> decide
    rw [ofReference, if_neg known.1]
    exact known.2
  · have hash : name.head? = some '#' := by
      rcases char with ⟨digits, -, same⟩ | ⟨digits, -, same⟩
      · obtain rfl : name = '#' :: digits := List.append_cancel_right (List.cons.inj same).2
        rfl
      · obtain rfl : name = '#' :: 'x' :: digits :=
          List.append_cancel_right (List.cons.inj same).2
        rfl
    rw [ofReference, if_pos hash]
    exact char

theorem pieces_of_not_text {s : Segment} (other : s.isText = false) : s.pieces = [s.written] := by
  cases s with
  | text cs => cases other
  | escaped | entity | charRef => rfl

theorem gathers_flush {d : Char} {pending : List Char} (plain : ∀ c ∈ pending, c ≠ d ∧ c ≠ '&') :
    Gathers d (flush pending) (pending.reverse.map fun c => [c]) := by
  cases pending with
  | nil => exact ⟨nofun, rfl⟩
  | cons c cs =>
      constructor
      · intro s member
        cases List.mem_singleton.mp member
        intro x held
        exact plain x (List.mem_reverse.mp held)
      · exact List.flatMap_singleton _ _

theorem Gathers.flush_cons {d : Char} {pending : List Char} {s : Segment}
    {segments : List Segment} {ps : List (List Char)} (h : Gathers d segments ps)
    (plain : ∀ c ∈ pending, c ≠ d ∧ c ≠ '&') (valid : s.Valid d) (other : s.isText = false) :
    Gathers d (flush pending ++ s :: segments)
      ((pending.reverse.map fun c => [c]) ++ s.written :: ps) := by
  have front := gathers_flush plain
  constructor
  · intro x member
    rcases List.mem_append.mp member with early | late
    · exact front.valid x early
    · rcases List.mem_cons.mp late with rfl | later
      · exact valid
      · exact h.valid x later
  · rw [List.flatMap_append, List.flatMap_cons, front.pieces, pieces_of_not_text other, h.pieces]
    rfl

/-- The pieces that the scanner takes are gathered, those held back first. -/
theorem gathers_go {d : Delimiter} {ps : List (List Char)} {pending : List Char}
    (taken : ∀ p ∈ ps, StringPiece d.char p) (plain : ∀ c ∈ pending, c ≠ d.char ∧ c ≠ '&') :
    Gathers d.char (split.go d.char pending ps.flatten)
      ((pending.reverse.map fun c => [c]) ++ ps) := by
  induction ps generalizing pending with
  | nil =>
      rw [List.flatten_nil, split.go, List.append_nil]
      exact gathers_flush plain
  | cons p ps ih =>
      obtain ⟨piece, others⟩ := List.forall_mem_cons.mp taken
      have later : Gathers d.char (split.go d.char [] ps.flatten) ps :=
        ih others (List.forall_mem_nil _)
      rw [List.flatten_cons]
      cases piece with
      | doubled =>
          rw [List.cons_append, split.go, if_pos ⟨rfl, rfl⟩]
          exact later.flush_cons plain rfl rfl
      | reference form =>
          obtain ⟨name, rfl, solid⟩ := reference_form form
          have closed : ';' ∉ name := fun member => solid ';' member (by decide)
          rw [go_reference (delimiter_ne_amp d) pending closed, ← written_ofReference]
          exact later.flush_cons plain (valid_ofReference d.char form) (isText_ofReference name)
      | @plain c quote amp =>
          have other : ¬ (c = d.char ∧ ps.flatten.head? = some d.char) := fun both => quote both.1
          rw [List.singleton_append, split.go, if_neg other, if_neg amp]
          have held := ih others (List.forall_mem_cons.mpr ⟨⟨quote, amp⟩, plain⟩)
          simpa using held

end Segment

namespace Scanner

/-- Splitting any text loses nothing, leaves no text empty and no two texts side by side. Each
string literal of a session has segments, and they hold the pieces in which the scanner reads it:
the only ones that lead from one delimiter to the other. -/
theorem string_segments :
    (∀ (d : Char) (inner : List Char),
      (Segment.split d inner).flatMap Segment.written = inner ∧
        Segment.Canonical (Segment.split d inner)) ∧
    ∀ (source : String) (m : Mode) (actions : List Action),
      ∀ r ∈ (Scanner.ofText source m).readings actions, r.token.kind = .string →
        ∃ (d : Delimiter) (inner : List Char) (pieces : List (List Char)),
          r.token.text.toList = d.char :: (inner ++ [d.char]) ∧
          r.token.segments? = some (Segment.split d.char inner) ∧
          Segment.Gathers d.char (Segment.split d.char inner) pieces ∧
          ∀ ps rest, StringPieces d.char (inner ++ [d.char]) ps rest ↔
            ps = pieces ∧ rest = [d.char] := by
  constructor
  · intro d inner
    exact ⟨Segment.flatMap_written_go d [] inner, Segment.canonical_go d [] inner⟩
  · intro source m actions
    refine forall_readings ?_ (Scanner.ofText source m) actions
    intro s t s' called kind
    obtain ⟨gap, gives⟩ := gives_of_next called
    have lexeme := gives.lexeme
    rw [kind] at lexeme
    obtain ⟨d, body, valid, text⟩ := lexeme
    obtain ⟨pieces, taken, rfl⟩ := exists_pieces valid
    have read := stringPieces_closed taken
    refine ⟨d, pieces.flatten, pieces, text, Token.segments?_of_text kind text,
      Segment.gathers_go taken nofun, ?_⟩
    intro ps rest
    constructor
    · exact read.unique
    · rintro ⟨rfl, rfl⟩
      exact read

/-- The doubled delimiter stands between two texts that would else be one. -/
theorem string_segments_mixed :
    Segment.split '"' "x\"\"y&gt;".toList =
        [.text ['x'], .escaped '"', .text ['y'], .entity ['g', 't']] ∧
      ∃ r ∈ (Scanner.ofText "\"x\"\"y&gt;\"").readings [.next], r.token.kind = .string ∧
        ∃ (d : Delimiter) (inner : List Char) (pieces : List (List Char)),
          r.token.text.toList = d.char :: (inner ++ [d.char]) ∧
          r.token.segments? = some (Segment.split d.char inner) ∧
          Segment.Gathers d.char (Segment.split d.char inner) pieces := by
  have value : StringValue "x\"y&gt;".toList :=
    .plain (by decide) (.plain (by decide) (.plain (by decide)
      (.reference (p := "&gt;".toList) (.inl ⟨['g', 't'], .inr (.inl rfl), rfl⟩) .nil)))
  have called := next_of_token (s := Scanner.ofText "\"x\"\"y&gt;\"") rfl
    (settle_of_token (step_literal .quot value))
  have member : ⟨{}, tokenAt (.ofText "\"x\"\"y&gt;\"") .string 10⟩ ∈
      (Scanner.ofText "\"x\"\"y&gt;\"").readings [.next] := by
    simp only [readings, act, called]
    exact List.mem_cons_self
  obtain ⟨d, inner, pieces, text, segments, gathers, -⟩ :=
    string_segments.2 _ _ _ _ member rfl
  have closed : Text.find? [';'] ['g', 't', ';'] = some 2 := rfl
  refine ⟨?_, _, member, rfl, d, inner, pieces, text, segments, gathers⟩
  simp [Segment.split, Segment.split.go, Segment.flush, closed]

end Scanner

end QueryScan
