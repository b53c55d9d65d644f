import QueryScan.Proofs.Positions
import QueryScan.Source.File
import Mathlib.Data.List.TakeWhile

/-! The index of lines against the text. A line is what stands between two line feeds, and its
number counts the line feeds before it. What is shown of it leaves out the carriage returns at its
end, and those inside it stay. -/
namespace QueryScan

namespace Text

/-! ### The end of a line -/

/-- A text is trimmed at its last character outside the class. -/
theorem trimEnd_append {p : Char → Bool} {u w : List Char} (all : ∀ c ∈ w, p c = true)
    (last : ∀ c ∈ u.getLast?, p c = false) : trimEnd p (u ++ w) = u := by
  have dropped : (u ++ w).reverse.dropWhile p = u.reverse := by
    rw [List.reverse_append, List.dropWhile_append_of_pos (by simpa using all)]
    cases back : u.reverse with
    | nil => rfl
    | cons c r =>
        have stop : p c = false := by
          refine last c ?_
          rw [← List.head?_reverse, back]
          rfl
        rw [List.dropWhile_cons, stop]
        rfl
  rw [trimEnd, dropped, List.reverse_reverse]

theorem exists_trimEnd (p : Char → Bool) (cs : List Char) :
    ∃ u w, cs = u ++ w ∧ (∀ c ∈ w, p c = true) ∧ ∀ c ∈ u.getLast?, p c = false := by
  refine ⟨(cs.reverse.dropWhile p).reverse, (cs.reverse.takeWhile p).reverse, ?_, ?_, ?_⟩
  · rw [← List.reverse_append, List.takeWhile_append_dropWhile, List.reverse_reverse]
  · intro c member
    exact List.mem_takeWhile_imp (List.mem_reverse.mp member)
  · intro c last
    rw [List.getLast?_reverse] at last
    have stop := List.head?_dropWhile_not p cs.reverse
    rw [Option.mem_def] at last
    simpa [last] using stop

/-- `shown` is the line without the carriage returns at its end, of which there are `returns`. -/
structure Shows (line shown : List Char) (returns : Nat) : Prop where
  split : line = shown ++ List.replicate returns '\r'
  last : shown.getLast? ≠ some '\r'

theorem exists_shows (line : List Char) : ∃ shown returns, Shows line shown returns := by
  obtain ⟨u, w, split, all, last⟩ := exists_trimEnd (· == '\r') line
  refine ⟨u, w.length, ?_, ?_⟩
  · have returns : w = List.replicate w.length '\r' :=
      List.eq_replicate_iff.mpr ⟨rfl, fun c member => by simpa using all c member⟩
    rw [← returns, split]
  · intro cr
    simpa using last '\r' cr

namespace Shows

variable {line shown : List Char} {returns : Nat}

theorem notMem {a : Char} (h : Shows line shown returns) (free : a ∉ line) : a ∉ shown := by
  intro member
  refine free ?_
  rw [h.split]
  exact List.mem_append_left _ member

/-- A line that starts with another character is shown from its start. -/
theorem head {c : Char} {r : List Char} (h : Shows (c :: r) shown returns) (other : c ≠ '\r') :
    ∃ rest, shown = c :: rest := by
  have split := h.split
  cases shown with
  | nil =>
      rw [List.nil_append] at split
      have cr : c ∈ List.replicate returns '\r' := split ▸ List.mem_cons_self
      exact absurd (List.eq_of_mem_replicate cr) other
  | cons x rest => exact ⟨rest, by rw [(List.cons.inj split).1]⟩

theorem behind (h : Shows line shown returns) (lead : List Char) (some : shown ≠ []) :
    Shows (lead ++ line) (lead ++ shown) returns := by
  refine ⟨?_, ?_⟩
  · rw [h.split, List.append_assoc]
  · rw [List.getLast?_append, List.getLast?_eq_some_getLast some, Option.some_or,
      ← List.getLast?_eq_some_getLast some]
    exact h.last

end Shows

end Text

/-! ### Lines of a text -/

/-- In the text, `line` stands between two line feeds, or between one and an end of the text. -/
structure LineOf (text front line behind : List Char) : Prop where
  split : text = front ++ (line ++ behind)
  opens : ∀ c ∈ front.getLast?, c = '\n'
  closes : ∀ c ∈ behind.head?, c = '\n'
  whole : '\n' ∉ line

theorem exists_lineOf (before ahead : List Char) :
    ∃ front lead tail behind, LineOf (before ++ ahead) front (lead ++ tail) behind ∧
      before = front ++ lead ∧ ahead = tail ++ behind := by
  obtain ⟨front, lead, rfl, inside, opens⟩ := Text.exists_trimEnd (· != '\n') before
  refine ⟨front, lead, ahead.takeWhile (· != '\n'), ahead.dropWhile (· != '\n'),
    ⟨?_, ?_, ?_, ?_⟩, rfl, List.takeWhile_append_dropWhile.symm⟩
  · rw [List.append_assoc lead, List.takeWhile_append_dropWhile, List.append_assoc]
  · intro c last
    simpa using opens c last
  · intro c first
    have stop := List.head?_dropWhile_not (· != '\n') ahead
    rw [Option.mem_def] at first
    simpa [first] using stop
  · intro feed
    rcases List.mem_append.mp feed with early | late
    · simpa using inside '\n' early
    · simpa using List.mem_takeWhile_imp late

/-! ### The index -/

/-- Offsets behind the line feeds of a text that starts at `offset`. -/
def startsBehind (offset : Nat) : List Char → List Nat
  | [] => []
  | c :: r =>
    if c = '\n' then (offset + c.utf8Size) :: startsBehind (offset + c.utf8Size) r
    else startsBehind (offset + c.utf8Size) r

theorem lineStarts_toList (content : List Char) :
    (lineStarts content).toList = 0 :: startsBehind 0 content := by
  have whole : ∀ (cs : List Char) (starts : Array Nat) (offset : Nat),
      (cs.foldl (fun counted c =>
        let next := counted.2 + c.utf8Size
        (if c = '\n' then counted.1.push next else counted.1, next)) (starts, offset)).1.toList =
      starts.toList ++ startsBehind offset cs := by
    intro cs
    induction cs with
    | nil =>
        intro starts offset
        exact (List.append_nil _).symm
    | cons c cs ih =>
        intro starts offset
        rw [List.foldl_cons, ih, startsBehind]
        split
        · rw [Array.toList_push, List.append_assoc, List.singleton_append]
        · rfl
  exact whole content #[0] 0

theorem length_startsBehind (offset : Nat) (cs : List Char) :
    (startsBehind offset cs).length = cs.count '\n' := by
  induction cs generalizing offset with
  | nil => rfl
  | cons c cs ih =>
      rw [startsBehind]
      split
      · next feed => rw [List.length_cons, ih, feed, List.count_cons_self]
      · next other => rw [ih, List.count_cons_of_ne other]

/-- The start of a line is the offset behind the line feed before it. -/
theorem startsBehind_getElem? (offset : Nat) (a b : List Char) :
    (startsBehind offset (a ++ '\n' :: b))[a.count '\n']? =
      some (offset + Text.byteLength (a ++ ['\n'])) := by
  induction a generalizing offset with
  | nil => simp [startsBehind]
  | cons c a ih =>
      rw [List.cons_append, startsBehind, List.cons_append, Text.byteLength_cons, ← Nat.add_assoc]
      split
      · next feed =>
          rw [feed, List.count_cons_self, List.getElem?_cons_succ]
          exact ih _
      · next other =>
          rw [List.count_cons_of_ne other]
          exact ih _

namespace LineOf

variable {text front line behind : List Char}

theorem start (h : LineOf text front line behind) :
    (lineStarts text)[front.count '\n']? = some (Text.byteLength front) := by
  rw [← Array.getElem?_toList, lineStarts_toList]
  rcases List.eq_nil_or_concat front with rfl | ⟨f, c, rfl⟩
  · rfl
  · obtain rfl : c = '\n' := h.opens c (by simp)
    rw [List.concat_eq_append, List.count_append, List.count_singleton_self,
      List.getElem?_cons_succ, h.split, List.concat_eq_append, List.append_assoc,
      List.singleton_append, startsBehind_getElem?, Nat.zero_add]

/-- The next line starts behind the line feed; behind the last line there is only the end. -/
theorem stop (h : LineOf text front line behind) :
    (lineStarts text)[front.count '\n' + 1]?.getD (Text.byteLength text) =
      Text.byteLength front + Text.byteLength (line ++ behind.take 1) := by
  have feeds : (front ++ line).count '\n' = front.count '\n' := by
    rw [List.count_append, List.count_eq_zero.mpr h.whole, Nat.add_zero]
  have split := h.split
  rw [← Array.getElem?_toList, lineStarts_toList, List.getElem?_cons_succ]
  cases behind with
  | nil =>
      rw [List.append_nil] at split
      have beyond : (startsBehind 0 text).length ≤ front.count '\n' := by
        rw [length_startsBehind, split, feeds]
      rw [List.getElem?_eq_none beyond, Option.getD_none, split, Text.byteLength_append,
        List.take_nil, List.append_nil]
  | cons c t =>
      obtain rfl : c = '\n' := h.closes c rfl
      rw [← List.append_assoc] at split
      rw [split, ← feeds, startsBehind_getElem?, Option.getD_some, Nat.zero_add, List.append_assoc,
        Text.byteLength_append]
      rfl

theorem trimEnd_line (h : LineOf text front line behind) {shown : List Char} {returns : Nat}
    (displayed : Text.Shows line shown returns) :
    Text.trimEnd SourceFile.isLineEnd (line ++ behind.take 1) = shown := by
  have solid := displayed.notMem h.whole
  rw [displayed.split, List.append_assoc]
  refine Text.trimEnd_append ?_ ?_
  · intro c member
    rcases List.mem_append.mp member with cr | feed
    · rw [List.eq_of_mem_replicate cr]
      rfl
    · rw [List.take_one, Option.mem_toList] at feed
      rw [h.closes c feed]
      rfl
  · intro c last
    have notFeed : c ≠ '\n' := by
      rintro rfl
      exact solid (List.mem_of_getLast? last)
    have notReturn : c ≠ '\r' := by
      rintro rfl
      exact displayed.last last
    simp [SourceFile.isLineEnd, notFeed, notReturn]

/-- A line of the file is found by its number, and shown without the carriage returns at its
end. -/
theorem line? (name : String) {content : String} {shown : List Char} {returns : Nat}
    (h : LineOf content.toList front line behind) (displayed : Text.Shows line shown returns) :
    (SourceFile.ofText name content).line? (front.count '\n' + 1) =
      some (String.ofList shown) := by
  have cut : Text.slice? content.toList (Text.byteLength front)
      (Text.byteLength front + Text.byteLength (line ++ behind.take 1)) =
        some (line ++ behind.take 1) := by
    have parts : content.toList = front ++ ((line ++ behind.take 1) ++ behind.drop 1) := by
      rw [List.append_assoc, List.take_append_drop, h.split]
    conv => lhs; arg 1; rw [parts]
    exact Text.slice?_append _ _ _
  simp only [SourceFile.line?, SourceFile.ofText, Nat.add_one_ne_zero, if_false,
    Nat.add_sub_cancel, h.start, h.stop, cut, Option.bind_eq_bind, Option.bind_some,
    h.trimEnd_line displayed]
  rfl

end LineOf

end QueryScan
