import QueryScan.Proofs.Readers

/-! Cursors that keep a text and a place in it, and nothing else. What is ahead is found by the byte
offset of the place. An operation has no result where it would cut a character, or would not come
to an end; from the start of a text that never happens, and a reader cannot tell such a pointer from
a cursor. -/
namespace QueryScan

/-- The bytes of a text in UTF-8. -/
def Text.bytes (cs : List Char) : List UInt8 :=
  cs.flatMap String.utf8EncodeChar

structure Pointer where
  text : List Char
  place : Place

namespace Pointer

def ofText (text : String) : Pointer :=
  ⟨text.toList, {}⟩

/-- The text ahead; none inside a character. -/
def rest? (p : Pointer) : Option (List Char) :=
  Text.slice? p.text p.place.offset (Text.byteLength p.text)

/-- The character ahead. A byte below 128 is a character by itself, so it is read without a cut. -/
def current? (p : Pointer) : Option (Option Char) :=
  match (Text.bytes p.text)[p.place.offset]? with
  | none => some none
  | some b => if b.toNat < 128 then some (some (Char.ofNat b.toNat)) else p.rest?.map List.head?

def peek? (p : Pointer) (n : Nat) : Option (Option Char) :=
  if n = 0 then p.current? else p.rest?.map fun ahead => ahead[n]?

def isAt? (p : Pointer) (expected : Char) : Option Bool :=
  p.current?.map fun found => found == some expected

def startsWith? (p : Pointer) (text : List Char) : Option Bool :=
  p.rest?.map fun ahead => text.isPrefixOf ahead

def atEnd (p : Pointer) : Bool :=
  Text.byteLength p.text ≤ p.place.offset

def past (p : Pointer) (c : Char) : Pointer :=
  { p with place := p.place.step c }

def advance? (p : Pointer) : Option (Option Char × Pointer) :=
  p.current?.map fun
    | some c => (some c, p.past c)
    | none => (none, p)

/-- As many steps forward; at the end of the text there are none. -/
def forward? (p : Pointer) : Nat → Option Pointer
  | 0 => some p
  | n + 1 => p.advance?.bind fun moved => moved.2.forward? n

theorem lt_of_current? {p : Pointer} {c : Char} (h : p.current? = some (some c)) :
    p.place.offset < (Text.bytes p.text).length := by
  unfold current? at h
  split at h
  · cases h
  · next known => exact (List.getElem?_eq_some_iff.mp known).1

/-- Reads on while `going` holds of the place and the character there, and counts. -/
def walk? (going : Place → Char → Bool) (p : Pointer) : Option (Nat × Pointer) :=
  match _ahead : p.current? with
  | none => none
  | some none => some (0, p)
  | some (some c) =>
    if going p.place c then (walk? going (p.past c)).map fun (n, q) => (n + 1, q) else some (0, p)
termination_by (Text.bytes p.text).length - p.place.offset
decreasing_by
  have := lt_of_current? _ahead
  have := Place.offset_step p.place c
  have := c.utf8Size_pos
  simp only [past]
  omega

def eat? (p : Pointer) (expected : Char) : Option (Bool × Pointer) :=
  (p.isAt? expected).bind fun here =>
    if here then p.advance?.map fun moved => (true, moved.2) else some (false, p)

def eatText? (p : Pointer) (text : List Char) : Option (Bool × Pointer) :=
  (p.startsWith? text).bind fun here =>
    if here then (p.forward? text.length).map fun q => (true, q) else some (false, p)

/-- The mark is sought in the text ahead; its offset is then walked to character by character. -/
def eatUntil? (p : Pointer) (mark : List Char) : Option (Bool × Pointer) :=
  p.rest?.bind fun ahead =>
    match Text.find? mark ahead with
    | some n =>
      let target := p.place.offset + Text.byteLength (ahead.take n)
      (p.walk? fun here _ => here.offset < target).bind fun (_, q) =>
        if q.place.offset < target then none else some (true, q)
    | none => (p.walk? fun _ _ => true).map fun (_, q) => (false, q)

def answer? {β : Type} (p : Pointer) : Operation β → Option (β × Pointer)
  | .current => p.current?.map fun x => (x, p)
  | .peek n => (p.peek? n).map fun x => (x, p)
  | .lookahead k => (p.peek? (k - 1)).map fun x => (x, p)
  | .isAt expected => (p.isAt? expected).map fun x => (x, p)
  | .startsWith text => (p.startsWith? text).map fun x => (x, p)
  | .atEnd => some (p.atEnd, p)
  | .place => some (p.place, p)
  | .rest => p.rest?.map fun x => (x, p)
  | .advance => p.advance?
  | .eat expected => p.eat? expected
  | .eatText text => p.eatText? text
  | .eatWhile pred => p.walk? fun _ c => pred c
  | .eatUntil mark => p.eatUntil? mark

/-- The same text at a place that was marked. -/
def rewind (p : Pointer) (mark : Place) : Pointer :=
  { p with place := mark }

end Pointer

namespace Reader

/-- A reader with a pointer. Marks are places. -/
def follow? {α : Type} : Reader α → Marked Pointer Place → Option (α × Marked Pointer Place)
  | .done a, s => some (a, s)
  | .ask r next, s => (s.cursor.answer? r).bind fun (b, p) => (next b).follow? ⟨p, s.marks⟩
  | .mark next, s => (next s.marks.length).follow? ⟨s.cursor, s.marks ++ [s.cursor.place]⟩
  | .restore i next, s =>
    next.follow? ⟨s.cursor.rewind (s.marks[i]?.getD s.cursor.place), s.marks⟩
  | .speculate trial next, s => (trial.follow? s).bind fun (b, t) =>
    (next b).follow? ⟨t.cursor.rewind s.cursor.place, t.marks⟩
  | .attempt trial next, s => (trial.follow? s).bind fun
    | (some b, t) => (next (some b)).follow? t
    | (none, t) => (next none).follow? ⟨t.cursor.rewind s.cursor.place, t.marks⟩

end Reader

/-! ### Bytes and characters -/

namespace Text

theorem length_bytes (cs : List Char) : (bytes cs).length = byteLength cs := by
  induction cs with
  | nil => rfl
  | cons c cs ih =>
      rw [bytes, List.flatMap_cons, List.length_append, String.length_utf8EncodeChar,
        byteLength_cons, ← ih, bytes]

theorem not_low {n : Nat} (least : 192 ≤ n) (most : n < 256) : ¬ (UInt8.ofNat n).toNat < 128 := by
  rw [UInt8.toNat_ofNat']
  omega

/-- A character is told by its first byte if that is below 128. -/
theorem utf8EncodeChar_cons (c : Char) :
    ∃ b t, String.utf8EncodeChar c = b :: t ∧ (b.toNat < 128 → Char.ofNat b.toNat = c) := by
  unfold String.utf8EncodeChar
  dsimp only
  split
  · next one =>
      refine ⟨_, _, rfl, fun _ => ?_⟩
      have code : c.val.toNat = c.toNat := rfl
      rw [UInt8.toNat_ofNat', Nat.mod_eq_of_lt (by omega), code, Char.ofNat_toNat]
  -- Every longer form starts with a byte of at least 192.
  · split
    · exact ⟨_, _, rfl, fun low => absurd low (not_low (by omega) (by omega))⟩
    · split
      · exact ⟨_, _, rfl, fun low => absurd low (not_low (by omega) (by omega))⟩
      · exact ⟨_, _, rfl, fun low => absurd low (not_low (by omega) (by omega))⟩

/-- Behind a start of the text stands the first byte of what follows. -/
theorem bytes_getElem? (before ahead : List Char) :
    (bytes (before ++ ahead))[byteLength before]? = (bytes ahead).head? := by
  rw [bytes, List.flatMap_append, ← bytes, ← bytes, ← length_bytes,
    List.getElem?_append_right (Nat.le_refl _), Nat.sub_self, List.head?_eq_getElem?]

end Text

/-! ### Pointers and cursors -/

namespace Pointer

variable {going : Place → Char → Bool} {p : Pointer} {c : Char}

theorem walk?_of_end (ahead : p.current? = some none) : p.walk? going = some (0, p) := by
  rw [walk?]
  split <;> simp_all

theorem walk?_of_neg (ahead : p.current? = some (some c)) (stop : going p.place c = false) :
    p.walk? going = some (0, p) := by
  rw [walk?]
  split <;> simp_all

theorem walk?_of_pos (ahead : p.current? = some (some c)) (on : going p.place c = true) :
    p.walk? going = ((p.past c).walk? going).map fun (n, q) => (n + 1, q) := by
  rw [walk?]
  split <;> simp_all

end Pointer

namespace Cursor

/-- The pointer to the place of the cursor. -/
def pointer (text : List Char) (c : Cursor) : Pointer :=
  ⟨text, c.place⟩

variable {text : List Char} {c : Cursor}

theorem In.rest? (h : c.In text) : (c.pointer text).rest? = some c.rest :=
  h.slice_end

theorem In.bytes (h : c.In text) :
    (Text.bytes text)[c.place.offset]? = (Text.bytes c.rest).head? := by
  rw [h.offset, ← h.source]
  exact Text.bytes_getElem? c.before.reverse c.rest

theorem In.current? (h : c.In text) : (c.pointer text).current? = some c.current? := by
  have first : (Text.bytes (c.pointer text).text)[(c.pointer text).place.offset]? =
      (Text.bytes c.rest).head? := h.bytes
  rw [Pointer.current?, first, Cursor.current?]
  cases ahead : c.rest with
  | nil => rfl
  | cons x r =>
      obtain ⟨b, t, code, low⟩ := Text.utf8EncodeChar_cons x
      rw [Text.bytes, List.flatMap_cons, code, List.cons_append, List.head?_cons]
      dsimp only
      split
      · next small => rw [low small, List.head?_cons]
      · rw [h.rest?, ahead, Option.map_some]

theorem In.peek? (h : c.In text) (n : Nat) : (c.pointer text).peek? n = some (c.peek? n) := by
  rw [Pointer.peek?]
  split
  · next zero => rw [h.current?, zero, Cursor.current?, Cursor.peek?, List.head?_eq_getElem?]
  · rw [h.rest?, Option.map_some, Cursor.peek?]

theorem In.isAt? (h : c.In text) (x : Char) : (c.pointer text).isAt? x = some (c.isAt x) := by
  rw [Pointer.isAt?, h.current?, Option.map_some, isAt]

theorem In.startsWith? (h : c.In text) (t : List Char) :
    (c.pointer text).startsWith? t = some (c.startsWith t) := by
  rw [Pointer.startsWith?, h.rest?, Option.map_some, startsWith]

theorem In.atEnd (h : c.In text) : (c.pointer text).atEnd = c.atEnd := by
  have total : Text.byteLength text = c.place.offset + Text.byteLength c.rest := by
    rw [h.offset, ← Text.byteLength_append, ← Cursor.source, h.source]
  rw [Pointer.atEnd, Cursor.atEnd, Bool.eq_iff_iff, decide_eq_true_iff, List.isEmpty_iff]
  show Text.byteLength text ≤ c.place.offset ↔ c.rest = []
  rw [total]
  cases c.rest with
  | nil => simp
  | cons x r =>
      have := x.utf8Size_pos
      simp only [Text.byteLength_cons, reduceCtorEq, iff_false]
      omega

theorem In.advance (h : c.In text) : c.advance.In text := by
  rw [c.advance_eq_forward]
  exact h.forward _

theorem In.advance? (h : c.In text) :
    (c.pointer text).advance? = some (c.current?, c.advance.pointer text) := by
  rw [Pointer.advance?, h.current?, Option.map_some, Cursor.current?, Cursor.advance]
  cases c.rest <;> rfl

theorem In.forward? (h : c.In text) (n : Nat) :
    (c.pointer text).forward? n = some ((c.forward n).pointer text) := by
  induction n generalizing c with
  | zero => rfl
  | succ n ih =>
      rw [Pointer.forward?, h.advance?, Option.bind_some]
      exact ih h.advance

/-- A walk over `w` and not further. -/
theorem In.walk? (h : c.In text) {going : Place → Char → Bool} {w r : List Char}
    (split : c.rest = w ++ r)
    (on : ∀ u x v, w = u ++ x :: v → going (c.place.after u) x = true)
    (stop : ∀ x ∈ r.head?, going (c.place.after w) x = false) :
    (c.pointer text).walk? going = some (w.length, (c.forward w.length).pointer text) := by
  induction w generalizing c with
  | nil =>
      have ahead := h.current?
      rw [Cursor.current?, split, List.nil_append] at ahead
      cases r with
      | nil => exact Pointer.walk?_of_end ahead
      | cons x r => exact Pointer.walk?_of_neg ahead (stop x rfl)
  | cons x w ih =>
      have ahead := h.current?
      rw [Cursor.current?, split, List.cons_append, List.head?_cons] at ahead
      have moved : c.advance = ⟨x :: c.before, w ++ r, c.place.step x⟩ := by
        rw [Cursor.advance, split]
        rfl
      have next : (c.pointer text).past x = c.advance.pointer text := by
        rw [moved]
        rfl
      have rest := ih h.advance (by rw [moved])
        (fun u y v same => by
          rw [moved]
          exact on (x :: u) y v (congrArg _ same))
        (fun y first => by
          rw [moved]
          exact stop y first)
      rw [Pointer.walk?_of_pos ahead (on [] x w rfl), next, rest]
      rfl

theorem In.eat? (h : c.In text) (x : Char) :
    (c.pointer text).eat? x =
      some ((c.orStay (c.eat? x)).1, (c.orStay (c.eat? x)).2.pointer text) := by
  rw [Pointer.eat?, h.isAt?, Option.bind_some, Cursor.eat?]
  split
  · rw [h.advance?]
    rfl
  · rfl

theorem In.eatText? (h : c.In text) (t : List Char) :
    (c.pointer text).eatText? t =
      some ((c.orStay (c.eatText? t)).1, (c.orStay (c.eatText? t)).2.pointer text) := by
  rw [Pointer.eatText?, h.startsWith?, Option.bind_some, Cursor.eatText?]
  split
  · rw [h.forward?]
    rfl
  · rfl

theorem In.eatWhile (h : c.In text) (p : Char → Bool) :
    ((c.pointer text).walk? fun _ x => p x) =
      some (((c.eatWhile p).textSince c).length, (c.eatWhile p).pointer text) := by
  have split : c.rest = c.rest.takeWhile p ++ c.rest.dropWhile p :=
    List.takeWhile_append_dropWhile.symm
  rw [length_textSince_eatWhile, Cursor.eatWhile, Text.run]
  refine h.walk? split ?_ ?_
  · intro u x v inside
    refine List.mem_takeWhile_imp (l := c.rest) ?_
    rw [inside]
    simp
  · intro x first
    have := List.head?_dropWhile_not p c.rest
    rw [Option.mem_def] at first
    simpa [first] using this

/-- Walking up to an offset ahead one comes to stand exactly there. -/
theorem In.walk?_to (h : c.In text) {w r : List Char} (split : c.rest = w ++ r) :
    ((c.pointer text).walk? fun here _ => here.offset < c.place.offset + Text.byteLength w) =
      some (w.length, (c.forward w.length).pointer text) := by
  refine h.walk? split ?_ ?_
  · rintro u x v rfl
    have := x.utf8Size_pos
    simp only [Place.offset_after, Text.byteLength_append, Text.byteLength_cons, decide_eq_true_iff]
    omega
  · intro x _
    simp only [Place.offset_after, Nat.lt_irrefl, decide_false]

theorem In.eatUntil? (h : c.In text) (mark : List Char) :
    (c.pointer text).eatUntil? mark =
      some ((c.eatUntil mark).1, (c.eatUntil mark).2.pointer text) := by
  rw [Pointer.eatUntil?, h.rest?, Option.bind_some, Cursor.eatUntil]
  cases found : Text.find? mark c.rest with
  | some n =>
      obtain ⟨w, r, split, rfl, -, -⟩ := Text.find?_go_first found
      have target : c.rest.take (0 + w.length) = w := by
        rw [Nat.zero_add, split, List.take_left]
      have reached : ¬ (c.forward w.length).place.offset <
          c.place.offset + Text.byteLength w := by
        rw [forward_of_split split, Place.offset_after]
        exact Nat.lt_irrefl _
      have walked := h.walk?_to split
      simp only [target]
      rw [show (c.pointer text).place.offset = c.place.offset from rfl, walked, Option.bind_some,
        Nat.zero_add]
      exact if_neg reached
  | none =>
      have walked : (c.pointer text).walk? (fun _ _ => true) =
          some (c.rest.length, (c.forward c.rest.length).pointer text) := by
        refine h.walk? (List.append_nil c.rest).symm (fun _ _ _ _ => rfl) ?_
        intro x beyond
        cases beyond
      dsimp only
      rw [walked]
      rfl

/-- A pointer answers like the cursor at its place, and moves like it. -/
theorem In.answer? (h : c.In text) {β : Type} (r : Operation β) :
    (c.pointer text).answer? r = some ((c.answer r).1, (c.answer r).2.pointer text) := by
  cases r with
  | current => rw [Pointer.answer?, h.current?]; rfl
  | peek n => rw [Pointer.answer?, h.peek?]; rfl
  | lookahead k => rw [Pointer.answer?, h.peek?]; rfl
  | isAt expected => rw [Pointer.answer?, h.isAt?]; rfl
  | startsWith t => rw [Pointer.answer?, h.startsWith?]; rfl
  | atEnd => rw [Pointer.answer?, h.atEnd]; rfl
  | place => rfl
  | rest => rw [Pointer.answer?, h.rest?]; rfl
  | advance => exact h.advance?
  | eat expected => exact h.eat? expected
  | eatText t => exact h.eatText? t
  | eatWhile p => exact h.eatWhile p
  | eatUntil mark => exact h.eatUntil? mark

end Cursor

namespace Marked

/-- Pointer and places instead of cursors. -/
def pointed (text : List Char) (s : Marked Cursor Cursor) : Marked Pointer Place :=
  ⟨s.cursor.pointer text, s.marks.map Cursor.place⟩

theorem pointed_mark (text : List Char) (s : Marked Cursor Cursor) :
    pointed text ⟨s.cursor, s.marks ++ [s.cursor]⟩ =
      ⟨(s.pointed text).cursor, (s.pointed text).marks ++ [(s.pointed text).cursor.place]⟩ := by
  simp only [pointed, List.map_append, List.map_singleton, Cursor.pointer]

theorem pointed_restore (text : List Char) (s : Marked Cursor Cursor) (i : Nat) :
    pointed text ⟨s.marks[i]?.getD s.cursor, s.marks⟩ =
      ⟨(s.pointed text).cursor.rewind
        ((s.pointed text).marks[i]?.getD (s.pointed text).cursor.place),
        (s.pointed text).marks⟩ := by
  simp only [pointed, Cursor.pointer, Pointer.rewind, List.getElem?_map, Option.getD_map]

end Marked

namespace Reader

variable {text : List Char} {α : Type}

/-- A reader cannot tell a pointer from a cursor. -/
theorem follow?_eq (reader : Reader α) {s : Marked Cursor Cursor} (h : s.In text) :
    reader.follow? (s.pointed text) =
      some ((reader.run s).1, (reader.run s).2.pointed text) := by
  induction reader generalizing s with
  | done => rfl
  | ask r next ih =>
      obtain ⟨taken, -, -, -, moved⟩ := h.cursor.keeps r
      have later := ih (s.cursor.answer r).1 (s := ⟨(s.cursor.answer r).2, s.marks⟩)
        ⟨moved ▸ h.cursor.forward taken.length, h.marks⟩
      have answered : (s.pointed text).cursor.answer? r = _ := h.cursor.answer? r
      rw [follow?, answered, Option.bind_some]
      exact later
  | mark next ih =>
      have later := ih s.marks.length h.mark
      have count : (s.pointed text).marks.length = s.marks.length := List.length_map _
      rw [follow?, count, ← Marked.pointed_mark]
      exact later
  | restore i next ih =>
      rw [follow?, ← Marked.pointed_restore]
      exact ih (h.restore i)
  | speculate trial next ihTrial ih =>
      rw [follow?, ihTrial h, Option.bind_some]
      exact ih _ (h.back (run_in trial h))
  | attempt trial next ihTrial ih =>
      rw [follow?, ihTrial h, Option.bind_some]
      cases given : (trial.run s).1 with
      | some b =>
          rw [run_success next given]
          exact ih _ (run_in trial h)
      | none =>
          rw [run_failure next given]
          exact ih _ (h.back (run_in trial h))

/-- From the start of a source every reader comes to a point of the source. What it gives and where
it ends is promised on the characters alone, without a choice; the place of the end is counted from
the characters before it, exactly so where the source is countable; and a pointer, which knows
nothing but its place, does the same. -/
theorem reads_source (source : String) (reader : Reader α) :
    ∃ a c marks, reader.run ⟨.ofText source, []⟩ = (a, ⟨c, marks⟩) ∧
      c.before.reverse ++ c.rest = source.toList ∧
      c.place = .behind c.before.reverse ∧
      (Text.Countable source.toList → c.place.line.toNat = Text.lineBehind c.before.reverse ∧
        c.place.column.toNat = Text.columnBehind c.before.reverse) ∧
      reader.Gives ⟨⟨[], source.toList⟩, []⟩ a ⟨c.zipper, marks.map Cursor.zipper⟩ ∧
      (∀ b t, reader.Gives ⟨⟨[], source.toList⟩, []⟩ b t →
        b = a ∧ t = ⟨c.zipper, marks.map Cursor.zipper⟩) ∧
      reader.follow? ⟨.ofText source, []⟩ =
        some (a, ⟨⟨source.toList, c.place⟩, marks.map Cursor.place⟩) := by
  have start : Marked.In source.toList ⟨.ofText source, []⟩ := ⟨.ofText source, nofun⟩
  have ended := run_in reader start
  have gives := run_gives reader start
  have behind := ended.cursor.place_behind
  refine ⟨_, _, _, rfl, ended.cursor.source, behind, fun countable => ?_, gives, ?_, ?_⟩
  · rw [behind]
    exact Place.behind_exact ⟨_, ended.cursor.source⟩ countable
  · intro b t other
    exact other.unique gives
  · exact follow?_eq reader start

/-- Marks the start, seeks a bracket two lines on, fails to read a pair of them, and returns. -/
def thereAndBack : Reader (List Place) :=
  .mark fun start =>
    .ask (.eatUntil ['(']) fun _ =>
      .ask .place fun sought =>
        .attempt (.ask (.eat '(') fun _ => .ask (.eat ')') fun shut =>
            .done (if shut then some () else none)) fun _ =>
          .ask .place fun failed =>
            .restore start (.ask .place fun returned => .done [sought, failed, returned])

theorem reads_source_failed :
    ∃ t, thereAndBack.follow? ⟨.ofText "é\r\nd(x)", []⟩ =
        some ([⟨5, 2, 2⟩, ⟨5, 2, 2⟩, ⟨0, 1, 1⟩], t) ∧
      ∀ b u, thereAndBack.Gives ⟨⟨[], "é\r\nd(x)".toList⟩, []⟩ b u →
        b = [⟨5, 2, 2⟩, ⟨5, 2, 2⟩, ⟨0, 1, 1⟩] := by
  obtain ⟨a, c, marks, ran, -, -, -, -, only, followed⟩ := reads_source "é\r\nd(x)" thereAndBack
  have given : (thereAndBack.run ⟨.ofText "é\r\nd(x)", []⟩).1 =
      [⟨5, 2, 2⟩, ⟨5, 2, 2⟩, ⟨0, 1, 1⟩] := by decide
  rw [ran] at given
  subst given
  exact ⟨_, followed, fun b u gives => (only b u gives).1⟩

/-- Behind `2 ^ 32` line feeds the counter of lines is at one again. -/
theorem reads_source_wrapped :
    ∃ n c marks, (ask (.eatWhile (· == '\n')) .done).run
        ⟨.ofText (String.ofList (List.replicate UInt32.size '\n')), []⟩ = (n, ⟨c, marks⟩) ∧
      Text.lineBehind c.before.reverse = UInt32.size + 1 ∧ c.place.line = 1 := by
  have pos : 0 < UInt32.size := by decide
  have again : (1 : UInt32) + .ofNat UInt32.size = 1 := by decide
  generalize UInt32.size = n at pos again ⊢
  have source : (Cursor.ofText (String.ofList (List.replicate n '\n'))).rest =
      List.replicate n '\n' := String.toList_ofList
  have count : Text.run (· == '\n') (List.replicate n '\n') = n := by simp [Text.run]
  have moved : (Cursor.ofText (String.ofList (List.replicate n '\n'))).eatWhile (· == '\n') =
      ⟨List.replicate n '\n', [], ({} : Place).after (List.replicate n '\n')⟩ := by
    rw [Cursor.eatWhile, source, count, Cursor.forward_eq, source, List.take_of_length_le (by simp),
      List.drop_of_length_le (by simp), List.reverse_replicate]
    simp only [Cursor.ofText, List.append_nil]
  refine ⟨_, _, _, rfl, ?_, ?_⟩
  · show Text.lineBehind (Cursor.eatWhile _ _).before.reverse = n + 1
    rw [moved, List.reverse_replicate, Text.lineBehind_feeds]
  · show (Cursor.eatWhile _ _).place.line = 1
    rw [moved, Place.after_feeds _ pos]
    exact again

end Reader

end QueryScan
