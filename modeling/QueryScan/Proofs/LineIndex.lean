import QueryScan.Proofs.Lines
import QueryScan.Proofs.Spans
import Mathlib.Data.List.DropRight

/-! The lines of a file. The index holds one offset more than the text holds line feeds, and the
`n`-th line is the `n`-th piece between line feeds, without the carriage returns at its end. Those
are lost: only a text without carriage returns is given back by its lines. -/
namespace QueryScan

/-! ### Pieces between line feeds -/

theorem Text.length_splitOn (a : Char) (cs : List Char) :
    (cs.splitOn a).length = cs.count a + 1 := by
  induction cs with
  | nil => rfl
  | cons c cs ih =>
      rw [List.splitOn_cons_eq_if_modifyHead]
      by_cases same : c = a
      · rw [if_pos (beq_iff_eq.mpr same), List.length_cons, ih, same, List.count_cons_self]
      · rw [if_neg (by simpa using same), List.length_modifyHead, ih, List.count_cons_of_ne same]

theorem Text.shows_rdropWhile (line : List Char) :
    Shows line (line.rdropWhile (· == '\r')) (line.rtakeWhile (· == '\r')).length := by
  constructor
  · have returns : line.rtakeWhile (· == '\r') =
        List.replicate (line.rtakeWhile (· == '\r')).length '\r' :=
      List.eq_replicate_iff.mpr ⟨rfl, fun c member => by simpa using List.mem_rtakeWhile_imp member⟩
    rw [← returns, List.rdropWhile_append_rtakeWhile]
  · intro last
    obtain ⟨nonempty, same⟩ := List.mem_getLast?_eq_getLast last
    exact List.rdropWhile_last_not _ _ nonempty (beq_iff_eq.mpr same.symm)

namespace LineOf

variable {text front line behind : List Char}

theorem front_eq_nil (h : LineOf text front line behind) (first : front.count '\n' = 0) :
    front = [] := by
  rcases List.eq_nil_or_concat front with nothing | ⟨f, c, rfl⟩
  · exact nothing
  · obtain rfl : c = '\n' := h.opens c (by simp)
    simp at first

/-- A line feed in front of the text starts one more line. -/
theorem cons_feed (h : LineOf text front line behind) :
    LineOf ('\n' :: text) ('\n' :: front) line behind := by
  refine ⟨congrArg _ h.split, ?_, h.closes, h.whole⟩
  intro c last
  cases front with
  | nil => simpa using last.symm
  | cons x r =>
      rw [List.getLast?_cons_cons] at last
      exact h.opens c last

/-- Another character in front of the text belongs to the first line, -/
theorem cons_first (h : LineOf text [] line behind) {c : Char} (other : c ≠ '\n') :
    LineOf (c :: text) [] (c :: line) behind :=
  ⟨congrArg _ h.split, nofun, h.closes, List.not_mem_cons_of_ne_of_not_mem other.symm h.whole⟩

/-- and leaves the others as they are. -/
theorem cons_later (h : LineOf text front line behind) (later : front ≠ []) (c : Char) :
    LineOf (c :: text) (c :: front) line behind := by
  refine ⟨congrArg _ h.split, ?_, h.closes, h.whole⟩
  intro d last
  obtain ⟨x, r, rfl⟩ := List.exists_cons_of_ne_nil later
  rw [List.getLast?_cons_cons] at last
  exact h.opens d last

end LineOf

/-- The pieces of a text between its line feeds are its lines. -/
theorem exists_lineOf_piece {text piece : List Char} {i : Nat}
    (h : (text.splitOn '\n')[i]? = some piece) :
    ∃ front behind, LineOf text front piece behind ∧ front.count '\n' = i := by
  induction text generalizing i piece with
  | nil =>
      cases i with
      | zero =>
          obtain rfl : [] = piece := Option.some.inj h
          exact ⟨[], [], ⟨rfl, nofun, nofun, List.not_mem_nil⟩, rfl⟩
      | succ i => contradiction
  | cons c text ih =>
      rw [List.splitOn_cons_eq_if_modifyHead] at h
      by_cases feed : c = '\n'
      · subst feed
        rw [if_pos (beq_self_eq_true _)] at h
        cases i with
        | zero =>
            obtain rfl : [] = piece := Option.some.inj h
            refine ⟨[], '\n' :: text, ⟨rfl, nofun, ?_, List.not_mem_nil⟩, rfl⟩
            exact fun d first => (Option.some.inj first).symm
        | succ i =>
            obtain ⟨front, behind, here, count⟩ := ih h
            exact ⟨_, behind, here.cons_feed, by rw [List.count_cons_self, count]⟩
      · rw [if_neg (by simpa using feed), List.getElem?_modifyHead] at h
        cases i with
        | zero =>
            obtain ⟨line, first, rfl⟩ := Option.map_eq_some_iff.mp h
            obtain ⟨front, behind, here, count⟩ := ih first
            obtain rfl := here.front_eq_nil count
            exact ⟨[], behind, here.cons_first feed, rfl⟩
        | succ i =>
            obtain ⟨front, behind, here, count⟩ := ih h
            have later : front ≠ [] := by
              rintro rfl
              contradiction
            exact ⟨_, behind, here.cons_later later c, by rw [List.count_cons_of_ne feed, count]⟩

namespace SourceFile

/-- The lines of the file are the pieces of the text between its line feeds. -/
structure HoldsLines (content : String) (f : SourceFile) : Prop where
  count : f.lineCount = 1 + content.toList.count '\n'
  found : ∀ n, 1 ≤ n → n ≤ f.lineCount → ∃ piece,
    (content.toList.splitOn '\n')[n - 1]? = some piece ∧
      f.line? n = some (String.ofList (piece.rdropWhile (· == '\r')))
  missing : ∀ n, n = 0 ∨ f.lineCount < n → f.line? n = none
  /-- A line is cut out of the text between two of its characters. -/
  boundaries : ∀ i start, f.starts[i]? = some start →
    start ≤ f.starts[i + 1]?.getD content.utf8ByteSize ∧
      (String.Pos.Raw.mk start).IsValid content ∧
      (String.Pos.Raw.mk (f.starts[i + 1]?.getD content.utf8ByteSize)).IsValid content
  rejoined : '\r' ∉ content.toList → ∃ lines,
    (List.range' 1 f.lineCount).mapM f.line? = some lines ∧ "\n".intercalate lines = content

variable (name content : String)

theorem lineCount_ofText : (ofText name content).lineCount = content.toList.count '\n' + 1 := by
  rw [lineCount, ofText, ← Array.length_toList, lineStarts_toList, List.length_cons,
    length_startsBehind]

/-- Every line of the file is a piece of the text. -/
theorem exists_piece {i : Nat} (inside : i < (ofText name content).lineCount) :
    ∃ piece front behind, (content.toList.splitOn '\n')[i]? = some piece ∧
      LineOf content.toList front piece behind ∧ front.count '\n' = i := by
  rw [lineCount_ofText, ← Text.length_splitOn] at inside
  have here := List.getElem?_eq_getElem inside
  obtain ⟨front, behind, line, count⟩ := exists_lineOf_piece here
  exact ⟨_, front, behind, here, line, count⟩

theorem line?_of_piece {i : Nat} {piece : List Char}
    (here : (content.toList.splitOn '\n')[i]? = some piece) :
    (ofText name content).line? (i + 1) =
      some (String.ofList (piece.rdropWhile (· == '\r'))) := by
  obtain ⟨front, behind, line, rfl⟩ := exists_lineOf_piece here
  exact line.line? name (Text.shows_rdropWhile piece)

theorem line?_eq_none {n : Nat} (outside : n = 0 ∨ (ofText name content).lineCount < n) :
    (ofText name content).line? n = none := by
  rcases outside with rfl | beyond
  · rfl
  · have unknown : (ofText name content).starts[n - 1]? = none := by
      refine Array.getElem?_eq_none ?_
      rw [lineCount] at beyond
      omega
    have positive : n ≠ 0 := by omega
    simp only [line?, if_neg positive, unknown, Option.bind_eq_bind, Option.bind_none]

theorem isValid_of_split {before rest : List Char} (split : content.toList = before ++ rest) :
    (String.Pos.Raw.mk (Text.byteLength before)).IsValid content := by
  have place := (Place.in_after split).boundary
  rwa [Place.offset_after, Nat.zero_add] at place

theorem starts_boundaries {i start : Nat} (known : (ofText name content).starts[i]? = some start) :
    start ≤ (ofText name content).starts[i + 1]?.getD content.utf8ByteSize ∧
      (String.Pos.Raw.mk start).IsValid content ∧
      (String.Pos.Raw.mk ((ofText name content).starts[i + 1]?.getD content.utf8ByteSize)).IsValid
        content := by
  obtain ⟨inside, -⟩ := Array.getElem?_eq_some_iff.mp known
  obtain ⟨piece, front, behind, -, line, rfl⟩ := exists_piece name content inside
  have first : start = Text.byteLength front := Option.some.inj (known.symm.trans line.start)
  have total : content.utf8ByteSize = Text.byteLength content.toList := by
    rw [Text.byteLength_eq, String.ofList_toList]
  have last : (ofText name content).starts[front.count '\n' + 1]?.getD content.utf8ByteSize =
      Text.byteLength (front ++ (piece ++ behind.take 1)) := by
    rw [total, Text.byteLength_append]
    exact line.stop
  rw [last, first]
  have whole : content.toList = (front ++ (piece ++ behind.take 1)) ++ behind.drop 1 := by
    rw [List.append_assoc, List.append_assoc, List.take_append_drop, line.split]
  refine ⟨?_, isValid_of_split content line.split, isValid_of_split content whole⟩
  rw [Text.byteLength_append]
  exact Nat.le_add_right _ _

/-- Without carriage returns a line is the whole piece. -/
theorem rdropWhile_piece {content : String} (plain : '\r' ∉ content.toList) {i : Nat}
    {piece : List Char} (here : (content.toList.splitOn '\n')[i]? = some piece) :
    piece.rdropWhile (· == '\r') = piece := by
  obtain ⟨front, behind, line, -⟩ := exists_lineOf_piece here
  refine List.rdropWhile_eq_self_iff.mpr ?_
  intro nonempty last
  refine plain ?_
  rw [line.split, ← beq_iff_eq.mp last]
  simp

/-- What is found number by number makes up the list. -/
theorem mapM_range' {α : Type} {f : Nat → Option α} {xs : List α} {first : Nat}
    (found : ∀ i x, xs[i]? = some x → f (first + i) = some x) :
    (List.range' first xs.length).mapM f = some xs := by
  induction xs generalizing first with
  | nil => rfl
  | cons x xs ih =>
      have here : f first = some x := found 0 x rfl
      have later : (List.range' (first + 1) xs.length).mapM f = some xs := by
        refine ih fun i y here => ?_
        rw [Nat.add_right_comm]
        exact found (i + 1) y here
      rw [List.length_cons, List.range'_succ, List.mapM_cons, here, later]
      rfl

theorem lines_rejoined (plain : '\r' ∉ content.toList) :
    ∃ lines, (List.range' 1 (ofText name content).lineCount).mapM (ofText name content).line? =
      some lines ∧ "\n".intercalate lines = content := by
  refine ⟨(content.toList.splitOn '\n').map String.ofList, ?_, ?_⟩
  · have length : (ofText name content).lineCount =
        ((content.toList.splitOn '\n').map String.ofList).length := by
      rw [lineCount_ofText, List.length_map, Text.length_splitOn]
    rw [length]
    refine mapM_range' fun i line here => ?_
    rw [List.getElem?_map] at here
    obtain ⟨piece, found, rfl⟩ := Option.map_eq_some_iff.mp here
    rw [Nat.add_comm, line?_of_piece name content found, rdropWhile_piece plain found]
  · rw [← String.toList_inj, String.toList_intercalate, List.map_map]
    have same : (String.toList ∘ String.ofList) = id := funext fun _ => String.toList_ofList
    rw [same, List.map_id]
    exact List.intercalate_splitOn '\n'

theorem ofText_holdsLines : (ofText name content).HoldsLines content := by
  refine ⟨?_, ?_, fun n => line?_eq_none name content,
    fun i start => starts_boundaries name content, lines_rejoined name content⟩
  · rw [lineCount_ofText, Nat.add_comm]
  · intro n positive inside
    have index : n - 1 < (ofText name content).lineCount := by omega
    obtain ⟨piece, -, -, here, -⟩ := exists_piece name content index
    have found := line?_of_piece name content here
    rw [Nat.sub_add_cancel positive] at found
    exact ⟨piece, here, found⟩

example : [1, 2, 3, 4].map (ofText "t" "é\r\n\r\rb\r\r\n").line? =
    [some "é", some "\r\rb", some "", none] := by
  decide

end SourceFile

end QueryScan
