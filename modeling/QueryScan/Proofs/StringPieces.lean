import QueryScan.Proofs.Boundaries
import QueryScan.Proofs.Faults

/-! Strings read piece by piece. At each point behind the opening quote at most one piece can be
taken, so every text is read in one way only, up to one point where no piece fits. What stands there
decides the answer of the scanner: a single quote, an ampersand without a reference, or nothing. -/
namespace QueryScan

open Scan

namespace Grammar

/-- What is taken at one point of a string with delimiter `d`. -/
inductive StringPiece (d : Char) : List Char → Prop
  | doubled : StringPiece d [d, d]
  | reference {p} : EntityRef p ∨ CharRef p → StringPiece d p
  | plain {c} : c ≠ d → c ≠ '&' → StringPiece d [c]

/-- Read from left to right, `r` is `pieces` up to the first point where none can be taken. There
`rest` is ahead. -/
structure StringPieces (d : Char) (r : List Char) (pieces : List (List Char))
    (rest : List Char) : Prop where
  split : r = pieces.flatten ++ rest
  taken : ∀ p ∈ pieces, StringPiece d p
  stuck : ∀ p, StringPiece d p → ¬ p <+: rest

variable {d : Delimiter}

/-! ### One point -/

/-- The character ahead tells which piece it can be. -/
theorem StringPiece.at_head {p r : List Char} {c : Char} (h : StringPiece d.char p)
    (ahead : p <+: c :: r) :
    if c = d.char then p = [d.char, d.char]
    else if c = '&' then EntityRef p ∨ CharRef p
    else p = [c] := by
  cases h with
  | doubled =>
      obtain rfl := (List.cons_prefix_cons.mp ahead).1
      rw [if_pos rfl]
  | reference form =>
      obtain ⟨t, rfl⟩ := reference_cons form
      obtain rfl := (List.cons_prefix_cons.mp ahead).1
      rw [if_neg (delimiter_ne_amp d).symm, if_pos rfl]
      exact form
  | plain quote amp =>
      obtain rfl := (List.cons_prefix_cons.mp ahead).1
      rw [if_neg quote, if_neg amp]

theorem StringPiece.ne_nil {p : List Char} (h : StringPiece d.char p) : p ≠ [] := by
  cases h with
  | reference form =>
      obtain ⟨t, rfl⟩ := reference_cons form
      exact List.cons_ne_nil _ _
  | doubled | plain => exact List.cons_ne_nil _ _

theorem StringPiece.unique {p q r : List Char} (hp : StringPiece d.char p)
    (hq : StringPiece d.char q) (ahead : p <+: r) (ahead' : q <+: r) : p = q := by
  cases r with
  | nil => exact absurd (List.prefix_nil.mp ahead) hp.ne_nil
  | cons c r =>
      have first := hp.at_head ahead
      have second := hq.at_head ahead'
      by_cases quote : c = d.char
      · rw [if_pos quote] at first second
        rw [first, second]
      · rw [if_neg quote] at first second
        by_cases amp : c = '&'
        · rw [if_pos amp] at first second
          exact reference_unique first second ahead ahead'
        · rw [if_neg amp] at first second
          rw [first, second]

/-! ### All points -/

theorem exists_stringPieces (d : Delimiter) (r : List Char) :
    ∃ pieces rest, StringPieces d.char r pieces rest := by
  obtain ⟨pieces, rest, cut, stuck⟩ := Text.exists_cut id (fun p _ => StringPiece d.char p)
    (fun p _ piece => piece.ne_nil) r
  have taken := cut.forall_mem (Q := StringPiece d.char) fun _ _ piece => piece
  refine ⟨pieces, rest, ?_, taken, ?_⟩
  · rw [cut.split, List.flatMap_id]
  · rintro p piece ⟨t, ahead⟩
    exact stuck p t ahead.symm piece

theorem StringPieces.tail {r p rest : List Char} {pieces : List (List Char)}
    (h : StringPieces d.char r (p :: pieces) rest) :
    ∃ t, r = p ++ t ∧ StringPieces d.char t pieces rest := by
  refine ⟨pieces.flatten ++ rest, ?_, rfl, ?_, h.stuck⟩
  · rw [h.split, List.flatten_cons, List.append_assoc]
  · exact (List.forall_mem_cons.mp h.taken).2

theorem StringPieces.unique {r rest rest' : List Char} {pieces pieces' : List (List Char)}
    (h : StringPieces d.char r pieces rest) (h' : StringPieces d.char r pieces' rest') :
    pieces' = pieces ∧ rest' = rest := by
  induction pieces generalizing r pieces' with
  | nil =>
      have first : r = rest := h.split
      cases pieces' with
      | nil => exact ⟨rfl, h'.split.symm.trans first⟩
      | cons q pieces' =>
          obtain ⟨t, split, -⟩ := h'.tail
          exact absurd ⟨t, split.symm.trans first⟩ (h.stuck q (h'.taken q List.mem_cons_self))
  | cons p pieces ih =>
      obtain ⟨t, split, later⟩ := h.tail
      have piece := h.taken p List.mem_cons_self
      cases pieces' with
      | nil => exact absurd ⟨t, split.symm.trans h'.split⟩ (h'.stuck p piece)
      | cons q pieces' =>
          obtain ⟨t', split', later'⟩ := h'.tail
          obtain rfl := (h'.taken q List.mem_cons_self).unique piece ⟨t', split'.symm⟩
            ⟨t, split.symm⟩
          obtain rfl := List.append_cancel_left (split.symm.trans split')
          obtain ⟨rfl, rfl⟩ := ih later later'
          exact ⟨rfl, rfl⟩

/-- No piece fits at the end, at a single delimiter and at an ampersand without a reference, and
nowhere else. -/
theorem StringPieces.stops {r rest : List Char} {pieces : List (List Char)}
    (h : StringPieces d.char r pieces rest) :
    rest = [] ∨ (∃ t, rest = d.char :: t ∧ t.head? ≠ some d.char) ∨
      ∃ t, rest = '&' :: t ∧ Unreferenced ('&' :: t) := by
  cases rest with
  | nil => exact .inl rfl
  | cons c t =>
      refine .inr ?_
      by_cases quote : c = d.char
      · subst quote
        refine .inl ⟨t, rfl, ?_⟩
        intro again
        obtain ⟨u, rfl⟩ := List.head?_eq_some_iff.mp again
        exact h.stuck _ .doubled ⟨u, rfl⟩
      · by_cases amp : c = '&'
        · subst amp
          exact .inr ⟨t, rfl, fun p form => h.stuck p (.reference form)⟩
        · exact absurd ⟨t, rfl⟩ (h.stuck [c] (.plain quote amp))

theorem stringBody_flatten {pieces : List (List Char)}
    (taken : ∀ p ∈ pieces, StringPiece d.char p) : StringBody d.char pieces.flatten := by
  induction pieces with
  | nil => exact .nil
  | cons p pieces ih =>
      obtain ⟨piece, others⟩ := List.forall_mem_cons.mp taken
      have later := ih others
      rw [List.flatten_cons]
      cases piece with
      | doubled => exact .doubled later
      | reference form => exact .reference form later
      | plain quote amp => exact .plain quote amp later

theorem exists_pieces {body : List Char} (h : StringBody d.char body) :
    ∃ pieces : List (List Char),
      (∀ p ∈ pieces, StringPiece d.char p) ∧ body = pieces.flatten := by
  induction h with
  | nil => exact ⟨[], nofun, rfl⟩
  | doubled _ ih =>
      obtain ⟨pieces, taken, rfl⟩ := ih
      exact ⟨[d.char, d.char] :: pieces, List.forall_mem_cons.mpr ⟨.doubled, taken⟩, rfl⟩
  | @reference p w form _ ih =>
      obtain ⟨pieces, taken, rfl⟩ := ih
      exact ⟨p :: pieces, List.forall_mem_cons.mpr ⟨.reference form, taken⟩, rfl⟩
  | @plain c w quote amp _ ih =>
      obtain ⟨pieces, taken, rfl⟩ := ih
      exact ⟨[c] :: pieces, List.forall_mem_cons.mpr ⟨.plain quote amp, taken⟩, rfl⟩

/-- Before a delimiter with nothing behind it the reading stops. -/
theorem stringPieces_closed {pieces : List (List Char)}
    (taken : ∀ p ∈ pieces, StringPiece d.char p) :
    StringPieces d.char (pieces.flatten ++ [d.char]) pieces [d.char] := by
  refine ⟨rfl, taken, ?_⟩
  intro p piece ahead
  have double := piece.at_head ahead
  rw [if_pos rfl] at double
  have short := ahead.length_le
  simp [double] at short

end Grammar

open Grammar

namespace Scan

variable {d : Delimiter} {r : List Char}

/-- Where quotes open strings, only a doubled delimiter of an attribute value comes first. -/
theorem step_string {m : Mode} (on : m.strings = true) (outside : m.inElement = false)
    (single : m.delimiter? = some d → r.head? ≠ some d.char) :
    step m (d.char :: r) = stringRest d.char 1 r := by
  rcases m.context_cases with expression | element | ⟨e, value⟩
  · rw [step_quote expression, if_pos on]
  · simp [Mode.inElement, element] at outside
  · have lead : d.char ∉ ['{', '}', '<'] := by cases d <;> decide
    have escape : ¬ (d.char = e.char ∧ r.head? = some e.char) := by
      rintro ⟨same, again⟩
      obtain rfl := delimiter_char_inj same
      exact single (Mode.delimiter?_eq_some_iff.mpr value) again
    rw [step_attribute r value lead, if_neg escape, if_pos (by simp [ofChar?_char, on])]

theorem stringRest_missing {t : List Char} (missing : Unreferenced ('&' :: t)) (read : Nat) :
    stringRest d.char read ('&' :: t) = .fault (.malformedReference read (referenceLook t)) := by
  have none : reference? ('&' :: t) = none := reference?_eq_none_iff.mpr missing
  rw [stringRest.eq_def]
  simp only [if_neg (delimiter_ne_amp d).symm, if_true, none]

end Scan

namespace Scanner

/-- How a call answers at a string: `body` is read behind the opening quote, and no piece fits where
`rest` is ahead. -/
structure AnswersString (s : Scanner) (source : String) (d : Delimiter)
    (body rest : List Char) : Prop where
  stops : ∀ c ∈ rest.head?, c = d.char ∨ c = '&'
  closed : ∀ t, rest = d.char :: t →
    t.head? ≠ some d.char ∧ s.Takes .string (d.char :: (body ++ [d.char]))
  malformed : ∀ t, rest = '&' :: t → ∃ stop,
    s.next.1 = .error (.malformedReference ((s.cursor.place.after (d.char :: body)).upTo stop))
  unterminated : rest = [] →
    s.next.1 = .error (.unterminated .string (s.cursor.place.upTo source.utf8ByteSize))

section

variable {s : Scanner} {source : String} {d : Delimiter} {body rest : List Char}
  (sound : s.failure = none) (split : s.cursor.rest = d.char :: (body ++ rest))
  (found : Scan.step s.mode s.cursor.rest = stringRest d.char (1 + body.length) rest)

include sound split found

theorem takes_closed {t : List Char} (closing : rest = d.char :: t)
    (single : t.head? ≠ some d.char) : s.Takes .string (d.char :: (body ++ [d.char])) := by
  subst closing
  rw [stringRest_close _ single] at found
  refine takes_of_step sound ⟨t, by simp [split]⟩ (found.trans ?_)
  simp only [List.length_cons, List.length_append, List.length_nil]
  congr 1
  omega

theorem next_missing {t : List Char} (amp : rest = '&' :: t)
    (missing : Unreferenced ('&' :: t)) :
    ∃ stop, s.next.1 = .error
      (.malformedReference ((s.cursor.place.after (d.char :: body)).upTo stop)) := by
  subst amp
  rw [stringRest_missing missing] at found
  have start : (s.cursor.forward (1 + body.length)).place =
      s.cursor.place.after (d.char :: body) := by
    rw [Cursor.forward_place, split, ← List.cons_append, Nat.add_comm]
    exact congrArg s.cursor.place.after (List.take_left' rfl)
  have error := congrArg Prod.fst (next_of_fault sound (settle_of_fault found))
  simp only [Fault.locate, start] at error
  exact ⟨_, error⟩

theorem next_open (placed : s.cursor.In source.toList) (ended : rest = []) :
    s.next.1 = .error (.unterminated .string (s.cursor.place.upTo source.utf8ByteSize)) := by
  subst ended
  rw [stringRest.eq_def] at found
  rw [next_of_fault sound (settle_of_fault found)]
  simp only [Fault.locate, if_neg (show Construct.string ≠ .pragma by decide), placed.offset_end]

end

/-- Where quotes open strings, a string is read piece by piece, in one way, up to the first point
where no piece fits. A single delimiter there closes it, and none follows. An ampersand there is the
start of a malformed reference, however far that was tried. At the end of the source the string is
open from its quote. -/
theorem next_string {s : Scanner} {source : String} {d : Delimiter} {r : List Char}
    (placed : s.cursor.In source.toList) (sound : s.failure = none)
    (ahead : s.cursor.rest = d.char :: r) (on : s.mode.strings = true)
    (outside : s.mode.inElement = false)
    (single : s.mode.delimiter? = some d → r.head? ≠ some d.char) :
    ∃ pieces rest,
      (∀ ps t, StringPieces d.char r ps t ↔ ps = pieces ∧ t = rest) ∧
      s.AnswersString source d pieces.flatten rest ∧
      ∀ t, s.next.1 = .ok t →
        t.kind = .string ∧ s.next.2.cursor.rest.head? ≠ some d.char := by
  obtain ⟨pieces, rest, read⟩ := exists_stringPieces d r
  have split : s.cursor.rest = d.char :: (pieces.flatten ++ rest) := by rw [ahead, read.split]
  have found : Scan.step s.mode s.cursor.rest =
      stringRest d.char (1 + pieces.flatten.length) rest := by
    rw [ahead, step_string on outside single, read.split,
      stringRest_append (delimiter_ne_amp d) (stringBody_flatten read.taken)]
  refine ⟨pieces, rest, ?_, ?_⟩
  · intro ps t
    constructor
    · exact read.unique
    · rintro ⟨rfl, rfl⟩
      exact read
  · rcases read.stops with rfl | ⟨t, rfl, alone⟩ | ⟨t, rfl, missing⟩
    · have error := next_open sound split found placed rfl
      refine ⟨⟨nofun, nofun, nofun, fun _ => error⟩, ?_⟩
      intro t given
      rw [error] at given
      cases given
    · have takes := takes_closed sound split found rfl alone
      have whole : s.cursor.rest = d.char :: (pieces.flatten ++ [d.char]) ++ t := by simp [split]
      have behind : s.next.2.cursor.rest = t := by
        rw [takes.behind, Cursor.forward_rest, whole, List.drop_left]
      constructor
      · refine ⟨fun c head => .inl (Option.some.inj head).symm, ?_, ?_, nofun⟩
        · intro u same
          obtain rfl := (List.cons.inj same).2
          exact ⟨alone, takes⟩
        · intro u same
          exact absurd (List.cons.inj same).1 (delimiter_ne_amp d)
      · intro u given
        rw [takes.given] at given
        cases given
        exact ⟨rfl, behind ▸ alone⟩
    · obtain ⟨stop, error⟩ := next_missing sound split found rfl missing
      constructor
      · refine ⟨fun c head => .inr (Option.some.inj head).symm, ?_, ?_, nofun⟩
        · intro u same
          exact absurd (List.cons.inj same).1.symm (delimiter_ne_amp d)
        · intro u same
          exact ⟨stop, error⟩
      · intro u given
        rw [error] at given
        cases given

/-- The name of the second reference is tried to its end, and the error is where it starts; the
quote behind it is not reached. A single delimiter of an attribute value opens a string as well. -/
theorem next_string_rollback :
    (Scanner.ofText "'&lt;&amp'" { context := .attribute .apos }).mode.delimiter? = some .apos ∧
      StringPieces '\'' "&lt;&amp'".toList ["&lt;".toList] "&amp'".toList ∧
      ∃ stop, (Scanner.ofText "'&lt;&amp'" { context := .attribute .apos }).next.1 =
        .error (.malformedReference ((⟨5, 1, 6⟩ : Place).upTo stop)) := by
  have read : StringPieces '\'' "&lt;&amp'".toList ["&lt;".toList] "&amp'".toList := by
    refine ⟨rfl, ?_, ?_⟩
    · simpa using StringPiece.reference (.inl ⟨['l', 't'], .inl rfl, rfl⟩)
    · intro p piece start
      have form : EntityRef p ∨ CharRef p :=
        piece.at_head (d := .apos) (c := '&') (r := "amp'".toList) start
      exact reference?_eq_none_iff.mp rfl p form start
  obtain ⟨pieces, rest, only, answers, -⟩ := next_string
    (s := .ofText "'&lt;&amp'" { context := .attribute .apos }) (d := .apos)
    (Cursor.In.ofText "'&lt;&amp'") rfl rfl rfl rfl (fun _ => by decide)
  obtain ⟨rfl, rfl⟩ := (only _ _).mp read
  exact ⟨rfl, read, answers.malformed _ rfl⟩

end Scanner

end QueryScan
