import QueryScan.Source.Cursor

/-! Byte offsets and cursors against the list of characters. A cursor that belongs to a text stands
between the characters before it and those ahead, and its offset counts the bytes of the former. -/
namespace QueryScan

namespace Text

@[simp] theorem byteLength_nil : byteLength [] = 0 := rfl

@[simp] theorem byteLength_cons (c : Char) (cs : List Char) :
    byteLength (c :: cs) = c.utf8Size + byteLength cs := rfl

@[simp] theorem byteLength_append (a b : List Char) :
    byteLength (a ++ b) = byteLength a + byteLength b := by
  induction a with
  | nil => simp
  | cons c a ih => simp [ih, Nat.add_assoc]

theorem charsIn?_go_byteLength (k : Nat) (a b : List Char) :
    charsIn?.go k (byteLength a) (a ++ b) = some (k + a.length) := by
  induction a generalizing k with
  | nil => simp [charsIn?.go]
  | cons c a ih =>
      obtain ⟨size, same⟩ := Nat.exists_eq_add_one.mpr c.utf8Size_pos
      have total : byteLength (c :: a) = (size + byteLength a) + 1 := by
        rw [byteLength_cons, same]
        omega
      have left : size + byteLength a + 1 - c.utf8Size = byteLength a := by omega
      rw [total, List.cons_append, charsIn?.go, if_pos (by omega), left, ih, List.length_cons]
      congr 1
      omega

/-- The bytes of a start of the text are its characters. -/
theorem charsIn?_byteLength (a b : List Char) :
    charsIn? (byteLength a) (a ++ b) = some a.length := by
  simpa [charsIn?] using charsIn?_go_byteLength 0 a b

/-- A cut at the bytes before and behind `b` gives `b`. -/
theorem slice?_append (a b c : List Char) :
    slice? (a ++ (b ++ c)) (byteLength a) (byteLength a + byteLength b) = some b := by
  have skipped := charsIn?_byteLength a (b ++ c)
  have taken := charsIn?_byteLength b c
  simp [slice?, skipped, taken]

theorem charsIn?_go_eq_some {k n m : Nat} {cs : List Char} (h : charsIn?.go k n cs = some m) :
    ∃ w r, cs = w ++ r ∧ byteLength w = n ∧ m = k + w.length := by
  fun_induction charsIn?.go k n cs with
  | case1 k =>
      cases h
      exact ⟨[], _, rfl, rfl, rfl⟩
  | case2 => contradiction
  | case3 k n c r fits ih =>
      obtain ⟨w, t, rfl, length, rfl⟩ := ih h
      refine ⟨c :: w, t, rfl, ?_, ?_⟩
      · rw [byteLength_cons, length]
        omega
      · rw [List.length_cons]
        omega
  | case4 => contradiction

/-- What is cut out of a text stands in it behind the bytes before the cut. -/
theorem slice?_split {cs w : List Char} {start stop : Nat} (h : slice? cs start stop = some w) :
    ∃ u v, cs = u ++ (w ++ v) ∧ byteLength u = start ∧ byteLength u + byteLength w = stop := by
  simp only [slice?] at h
  obtain ⟨ordered, h⟩ := Option.ite_none_left_eq_some.mp h
  obtain ⟨skipped, front, h⟩ := Option.bind_eq_some_iff.mp h
  obtain ⟨taken, inner, h⟩ := Option.bind_eq_some_iff.mp h
  cases h
  obtain ⟨u, r, rfl, before, rfl⟩ := charsIn?_go_eq_some front
  rw [Nat.zero_add, List.drop_left] at inner ⊢
  obtain ⟨v, t, rfl, length, rfl⟩ := charsIn?_go_eq_some inner
  rw [Nat.zero_add, List.take_left]
  refine ⟨u, t, rfl, before, ?_⟩
  omega

/-- A text has one start of so many bytes. -/
theorem append_of_byteLength {u v a b : List Char} (same : u ++ a = v ++ b)
    (bytes : byteLength u = byteLength v) : u = v ∧ a = b := by
  have counted := charsIn?_byteLength u a
  rw [same, bytes, charsIn?_byteLength] at counted
  exact List.append_inj same (Option.some.inj counted).symm

end Text

namespace Place

@[simp] theorem after_nil (p : Place) : p.after [] = p := rfl

@[simp] theorem after_cons (p : Place) (c : Char) (cs : List Char) :
    p.after (c :: cs) = (p.step c).after cs := rfl

theorem after_append (p : Place) (a b : List Char) : p.after (a ++ b) = (p.after a).after b :=
  List.foldl_append

theorem offset_step (p : Place) (c : Char) : (p.step c).offset = p.offset + c.utf8Size := by
  unfold step
  split <;> rfl

theorem offset_after (p : Place) (cs : List Char) :
    (p.after cs).offset = p.offset + Text.byteLength cs := by
  induction cs generalizing p with
  | nil => rfl
  | cons c cs ih => rw [after_cons, ih, offset_step, Text.byteLength_cons, Nat.add_assoc]

end Place

namespace Cursor

/-- Reading forward moves characters from ahead to behind, and the place over them. -/
theorem forward_eq (c : Cursor) (n : Nat) :
    c.forward n =
      ⟨(c.rest.take n).reverse ++ c.before, c.rest.drop n, c.place.after (c.rest.take n)⟩ := by
  induction n generalizing c with
  | zero => rfl
  | succ n ih =>
      rw [forward, ih]
      unfold advance
      split
      · next ended => simp [ended]
      · next x r ahead => simp [ahead]

@[simp] theorem forward_rest (c : Cursor) (n : Nat) : (c.forward n).rest = c.rest.drop n := by
  rw [forward_eq]

@[simp] theorem forward_before (c : Cursor) (n : Nat) :
    (c.forward n).before = (c.rest.take n).reverse ++ c.before := by
  rw [forward_eq]

@[simp] theorem forward_place (c : Cursor) (n : Nat) :
    (c.forward n).place = c.place.after (c.rest.take n) := by
  rw [forward_eq]

theorem forward_forward (c : Cursor) (n k : Nat) : (c.forward n).forward k = c.forward (n + k) := by
  induction n generalizing c with
  | zero => rw [forward, Nat.zero_add]
  | succ n ih => rw [forward, ih, Nat.add_right_comm, forward]

/-- The cursor stands in `text`, and its place is that of the characters before it. -/
structure In (text : List Char) (c : Cursor) : Prop where
  source : c.source = text
  place : c.place = ({} : Place).after c.before.reverse

theorem In.ofText (text : String) : In text.toList (.ofText text) :=
  ⟨rfl, rfl⟩

theorem In.forward {text : List Char} {c : Cursor} (h : In text c) (n : Nat) :
    In text (c.forward n) := by
  constructor
  · simp [Cursor.source, ← h.source]
  · rw [forward_place, forward_before, List.reverse_append, List.reverse_reverse,
      Place.after_append, ← h.place]

theorem In.offset {text : List Char} {c : Cursor} (h : In text c) :
    c.place.offset = Text.byteLength c.before.reverse := by
  rw [h.place, Place.offset_after, Nat.zero_add]

/-- The bytes from one cursor to a later one are the characters between them. -/
theorem In.slice {text : List Char} {c : Cursor} (h : In text c) (n : Nat) :
    Text.slice? text c.place.offset (c.forward n).place.offset = some (c.rest.take n) := by
  have parts : text = c.before.reverse ++ (c.rest.take n ++ c.rest.drop n) := by
    rw [List.take_append_drop, ← h.source, Cursor.source]
  rw [forward_place, Place.offset_after, h.offset]
  conv => lhs; arg 1; rw [parts]
  exact Text.slice?_append _ _ _

/-- The bytes from a cursor to the end are the characters ahead. -/
theorem In.slice_end {text : List Char} {c : Cursor} (h : In text c) :
    Text.slice? text c.place.offset (Text.byteLength text) = some c.rest := by
  have total : (c.forward c.rest.length).place.offset = Text.byteLength text := by
    rw [forward_place, List.take_length, Place.offset_after, h.offset, ← Text.byteLength_append,
      ← h.source, Cursor.source]
  rw [← total, h.slice, List.take_length]

end Cursor

end QueryScan
