import QueryScan.Proofs.Spans

/-! Readers, which are what is done with a cursor, as data. A reader asks one thing at a time, and
what it asks next may depend on the answers so far. What it is told, and where it comes to stand, is
said on lists of characters alone: the text before a point and the text ahead. -/
namespace QueryScan

/-- One thing asked of a cursor, by the type of the answer. -/
inductive Operation : Type → Type
  | current : Operation (Option Char)
  | peek (n : Nat) : Operation (Option Char)
  | lookahead (k : Nat) : Operation (Option Char)
  | isAt (expected : Char) : Operation Bool
  | startsWith (text : List Char) : Operation Bool
  | atEnd : Operation Bool
  | place : Operation Place
  | rest : Operation (List Char)
  | advance : Operation (Option Char)
  | eat (expected : Char) : Operation Bool
  | eatText (text : List Char) : Operation Bool
  | eatWhile (p : Char → Bool) : Operation Nat
  | eatUntil (mark : List Char) : Operation Bool

/-- A trial is a reader as well, so trials nest. Marks are known by their number, in the order in
which they are set, and outlive the trial in which they were set. -/
inductive Reader : Type → Type 1
  | done {α : Type} (answer : α) : Reader α
  | ask {α β : Type} (operation : Operation β) (next : β → Reader α) : Reader α
  | mark {α : Type} (next : Nat → Reader α) : Reader α
  | restore {α : Type} (mark : Nat) (next : Reader α) : Reader α
  | speculate {α : Type} (trial : Reader Bool) (next : Bool → Reader α) : Reader α
  | attempt {α β : Type} (trial : Reader (Option β)) (next : Option β → Reader α) : Reader α

/-- A point, and the points that have been marked. -/
structure Marked (κ μ : Type) where
  cursor : κ
  marks : List μ

namespace Cursor

/-- Behind what was eaten, or where it was. -/
def orStay (c : Cursor) : Option Cursor → Bool × Cursor
  | some d => (true, d)
  | none => (false, c)

def answer {β : Type} (c : Cursor) : Operation β → β × Cursor
  | .current => (c.current?, c)
  | .peek n => (c.peek? n, c)
  | .lookahead k => (c.lookahead? k, c)
  | .isAt expected => (c.isAt expected, c)
  | .startsWith text => (c.startsWith text, c)
  | .atEnd => (c.atEnd, c)
  | .place => (c.place, c)
  | .rest => (c.rest, c)
  | .advance => (c.current?, c.advance)
  | .eat expected => c.orStay (c.eat? expected)
  | .eatText text => c.orStay (c.eatText? text)
  | .eatWhile p => (((c.eatWhile p).textSince c).length, c.eatWhile p)
  | .eatUntil mark => c.eatUntil mark

end Cursor

namespace Reader

def run {α : Type} : Reader α → Marked Cursor Cursor → α × Marked Cursor Cursor
  | .done a, s => (a, s)
  | .ask r next, s =>
    (next (s.cursor.answer r).1).run ⟨(s.cursor.answer r).2, s.marks⟩
  | .mark next, s => (next s.marks.length).run ⟨s.cursor, s.marks ++ [s.cursor]⟩
  | .restore i next, s => next.run ⟨s.marks[i]?.getD s.cursor, s.marks⟩
  | .speculate trial next, s =>
    let given := s.cursor.speculate fun c =>
      ((trial.run ⟨c, s.marks⟩).1, (trial.run ⟨c, s.marks⟩).2.cursor)
    (next given.1).run ⟨given.2, (trial.run s).2.marks⟩
  | .attempt trial next, s =>
    let given := s.cursor.attempt fun c =>
      (trial.run ⟨c, s.marks⟩).1.map fun b => (b, (trial.run ⟨c, s.marks⟩).2.cursor)
    (next given.1).run ⟨given.2, (trial.run s).2.marks⟩

end Reader

/-! ### What is promised -/

/-- The place behind a text that starts a source. -/
def Place.behind (before : List Char) : Place where
  offset := (String.ofList before).utf8ByteSize
  line := .ofNat (Text.lineBehind before)
  column := .ofNat (Text.columnBehind before)

theorem Place.behind_exact {text before : List Char} (start : before <+: text)
    (countable : Text.Countable text) :
    (behind before).line.toNat = Text.lineBehind before ∧
      (behind before).column.toNat = Text.columnBehind before := by
  obtain ⟨line, column⟩ := countable before start
  exact ⟨UInt32.toNat_ofNat_of_lt' line, UInt32.toNat_ofNat_of_lt' column⟩

/-- What is answered at a point, and which characters of the text ahead are read. -/
def Operation.Means {β : Type} (before ahead : List Char) :
    Operation β → (answer : β) → (taken : List Char) → Prop
  | .current, x, t => x = ahead.head? ∧ t = []
  | .peek n, x, t => x = ahead[n]? ∧ t = []
  | .lookahead k, x, t => x = ahead[k - 1]? ∧ t = []
  | .isAt expected, x, t => (x = true ↔ ahead.head? = some expected) ∧ t = []
  | .startsWith text, x, t => (x = true ↔ text <+: ahead) ∧ t = []
  | .atEnd, x, t => (x = true ↔ ahead = []) ∧ t = []
  | .place, x, t => x = .behind before ∧ t = []
  | .rest, x, t => x = ahead ∧ t = []
  | .advance, x, t => x = ahead.head? ∧ t = ahead.take 1
  | .eat expected, x, t =>
    (x = true ∧ t = [expected] ∧ [expected] <+: ahead) ∨
      (x = false ∧ t = [] ∧ ¬ [expected] <+: ahead)
  | .eatText text, x, t =>
    (x = true ∧ t = text ∧ text <+: ahead) ∨ (x = false ∧ t = [] ∧ ¬ text <+: ahead)
  -- No longer start of the text is of the class.
  | .eatWhile p, x, t =>
    x = t.length ∧ (∀ c ∈ t, p c = true) ∧ ∀ w, w <+: ahead → (∀ c ∈ w, p c = true) → w <+: t
  -- The mark occurs behind what is read, and nowhere earlier.
  | .eatUntil mark, x, t =>
    (x = true ∧ t ++ mark <+: ahead ∧ ∀ u, u ++ mark <+: ahead → t.length ≤ u.length) ∨
      (x = false ∧ t = ahead ∧ ¬ mark <:+: ahead)

/-- The characters of a text, parted at a point. -/
structure Zipper where
  before : List Char
  ahead : List Char

theorem Operation.Means.unique {β : Type} {r : Operation β} {before ahead t u : List Char} {x y : β}
    (h : r.Means before ahead x t) (startT : t <+: ahead) (k : r.Means before ahead y u)
    (startU : u <+: ahead) : x = y ∧ t = u := by
  cases r with
  | current | peek | lookahead | place | rest | advance =>
      exact ⟨h.1.trans k.1.symm, h.2.trans k.2.symm⟩
  | isAt | startsWith | atEnd =>
      exact ⟨Bool.eq_iff_iff.mpr (h.1.trans k.1.symm), h.2.trans k.2.symm⟩
  | eat | eatText =>
      rcases h with ⟨rfl, rfl, found⟩ | ⟨rfl, rfl, missing⟩
      · rcases k with ⟨rfl, rfl, -⟩ | ⟨-, -, missing⟩
        · exact ⟨rfl, rfl⟩
        · exact absurd found missing
      · rcases k with ⟨-, -, found⟩ | ⟨rfl, rfl, -⟩
        · exact absurd found missing
        · exact ⟨rfl, rfl⟩
  | eatWhile p =>
      obtain ⟨rfl, all, longest⟩ := h
      obtain ⟨rfl, all', longest'⟩ := k
      have same : t = u :=
        (longest' t startT all).eq_of_length_le (longest u startU all').length_le
      exact ⟨congrArg List.length same, same⟩
  | eatUntil mark =>
      have occurs {v : List Char} (found : v ++ mark <+: ahead) : mark <:+: ahead :=
        (List.infix_append' v mark []).trans (by simpa using found.isInfix)
      rcases h with ⟨rfl, found, first⟩ | ⟨rfl, rfl, missing⟩
      · rcases k with ⟨rfl, found', first'⟩ | ⟨-, -, missing⟩
        · have length : t.length = u.length := Nat.le_antisymm (first u found') (first' t found)
          exact ⟨rfl, (List.prefix_of_prefix_length_le startT startU
            (Nat.le_of_eq length)).eq_of_length length⟩
        · exact absurd (occurs found) missing
      · rcases k with ⟨-, found, -⟩ | ⟨rfl, rfl, -⟩
        · exact absurd (occurs found) missing
        · exact ⟨rfl, rfl⟩

namespace Reader

/-- What a reader may give from a point, and where it may end. A trial is given back whole, unless
it was attempted and has succeeded; only its marks stay. -/
inductive Gives : {α : Type} → Reader α → Marked Zipper Zipper → α → Marked Zipper Zipper → Prop
  | done {α : Type} {a : α} {s : Marked Zipper Zipper} : Gives (.done a) s a s
  | ask {α β : Type} {r : Operation β} {next : β → Reader α} {taken rest : List Char} {b : β}
      {a : α} {s t : Marked Zipper Zipper} : s.cursor.ahead = taken ++ rest →
      r.Means s.cursor.before s.cursor.ahead b taken →
      Gives (next b) ⟨⟨s.cursor.before ++ taken, rest⟩, s.marks⟩ a t → Gives (.ask r next) s a t
  | mark {α : Type} {next : Nat → Reader α} {a : α} {s t : Marked Zipper Zipper} :
      Gives (next s.marks.length) ⟨s.cursor, s.marks ++ [s.cursor]⟩ a t → Gives (.mark next) s a t
  | restore {α : Type} {i : Nat} {next : Reader α} {a : α} {s t : Marked Zipper Zipper} :
      Gives next ⟨s.marks[i]?.getD s.cursor, s.marks⟩ a t → Gives (.restore i next) s a t
  | speculate {α : Type} {trial : Reader Bool} {next : Bool → Reader α} {b : Bool} {a : α}
      {s t u : Marked Zipper Zipper} : Gives trial s b u →
      Gives (next b) ⟨s.cursor, u.marks⟩ a t → Gives (.speculate trial next) s a t
  | success {α β : Type} {trial : Reader (Option β)} {next : Option β → Reader α} {b : β} {a : α}
      {s t u : Marked Zipper Zipper} : Gives trial s (some b) u →
      Gives (next (some b)) u a t → Gives (.attempt trial next) s a t
  | failure {α β : Type} {trial : Reader (Option β)} {next : Option β → Reader α} {a : α}
      {s t u : Marked Zipper Zipper} : Gives trial s none u →
      Gives (next none) ⟨s.cursor, u.marks⟩ a t → Gives (.attempt trial next) s a t

/-- The promise leaves no choice. -/
theorem Gives.unique {α : Type} {reader : Reader α} {a b : α} {s t u : Marked Zipper Zipper}
    (h : reader.Gives s a t) (k : reader.Gives s b u) : a = b ∧ t = u := by
  induction h generalizing u with
  | done =>
      cases k
      exact ⟨rfl, rfl⟩
  | ask ahead means _ ih =>
      cases k with
      | ask ahead' means' later =>
          have start := ahead ▸ List.prefix_append _ _
          have start' := ahead' ▸ List.prefix_append _ _
          obtain ⟨rfl, rfl⟩ := means.unique start means' start'
          obtain rfl := List.append_cancel_left (ahead.symm.trans ahead')
          exact ih later
  | mark _ ih =>
      cases k with
      | mark later => exact ih later
  | restore _ ih =>
      cases k with
      | restore later => exact ih later
  | speculate _ _ ihTrial ih =>
      cases k with
      | speculate trial later =>
          obtain ⟨rfl, rfl⟩ := ihTrial trial
          exact ih later
  | success _ _ ihTrial ih =>
      cases k with
      | success trial later =>
          obtain ⟨same, rfl⟩ := ihTrial trial
          obtain rfl := Option.some.inj same
          exact ih later
      | failure trial _ => exact absurd (ihTrial trial).1 nofun
  | failure _ _ ihTrial ih =>
      cases k with
      | success trial _ => exact absurd (ihTrial trial).1 nofun
      | failure trial later =>
          obtain ⟨-, rfl⟩ := ihTrial trial
          exact ih later

end Reader

/-! ### The cursor keeps the promise -/

namespace Text

/-- The longest start of the text whose characters are all of the class. -/
theorem takeWhile_longest {p : Char → Bool} {w cs : List Char} (start : w <+: cs)
    (all : ∀ c ∈ w, p c = true) : w <+: cs.takeWhile p := by
  obtain ⟨r, rfl⟩ := start
  rw [List.takeWhile_append_of_pos all]
  exact List.prefix_append w _

theorem find?_go_first {mark : List Char} {k n : Nat} {cs : List Char}
    (h : find?.go mark k cs = some n) :
    ∃ w r, cs = w ++ r ∧ n = k + w.length ∧ mark <+: r ∧
      ∀ u, u ++ mark <+: cs → w.length ≤ u.length := by
  induction cs generalizing k with
  | nil =>
      obtain ⟨empty, same⟩ := Option.ite_none_right_eq_some.mp h
      obtain rfl := List.isEmpty_iff.mp empty
      exact ⟨[], [], rfl, (Option.some.inj same).symm, List.prefix_rfl, fun u _ => Nat.zero_le _⟩
  | cons c cs ih =>
      rw [find?.go] at h
      split at h
      · next here =>
          refine ⟨[], c :: cs, rfl, (Option.some.inj h).symm, ?_, fun u _ => Nat.zero_le _⟩
          exact List.isPrefixOf_iff_prefix.mp here
      · next here =>
          obtain ⟨w, r, rfl, rfl, found, first⟩ := ih h
          refine ⟨c :: w, r, rfl, by rw [List.length_cons]; omega, found, ?_⟩
          intro u occurs
          cases u with
          | nil => exact absurd (List.isPrefixOf_iff_prefix.mpr occurs) here
          | cons x u =>
              exact Nat.succ_le_succ (first u (List.cons_prefix_cons.mp occurs).2)

theorem find?_go_none {mark : List Char} {k : Nat} {cs : List Char}
    (h : find?.go mark k cs = none) : ¬ mark <:+: cs := by
  induction cs generalizing k with
  | nil =>
      intro occurs
      rw [find?.go, List.infix_nil.mp occurs] at h
      contradiction
  | cons c cs ih =>
      rw [find?.go] at h
      split at h
      · contradiction
      · next here =>
          intro occurs
          rcases List.infix_cons_iff.mp occurs with start | later
          · exact here (List.isPrefixOf_iff_prefix.mpr start)
          · exact ih h later

end Text

namespace Cursor

variable {text : List Char} {c : Cursor}

theorem forward_of_split {taken rest : List Char} (split : c.rest = taken ++ rest) :
    c.forward taken.length = ⟨taken.reverse ++ c.before, rest, c.place.after taken⟩ := by
  rw [forward_eq, split, List.take_left, List.drop_left]

theorem rest_behind {t r : List Char} (split : c.rest = t ++ r) :
    (c.forward t.length).rest = r := by
  rw [forward_of_split split]

theorem advance_eq_forward (c : Cursor) : c.advance = c.forward (c.rest.take 1).length := by
  cases ahead : c.rest with
  | nil => rw [advance, ahead]; rfl
  | cons x r => rfl

theorem In.place_behind (h : In text c) : c.place = .behind c.before.reverse := by
  have offset := Place.offset_after {} c.before.reverse
  rw [Nat.zero_add] at offset
  rw [h.place, Place.behind, ← Place.column_after, ← Place.line_before, ← Text.byteLength_eq,
    ← offset]

theorem length_textSince_forward {taken rest : List Char} (split : c.rest = taken ++ rest) :
    ((c.forward taken.length).textSince c).length = taken.length := by
  rw [forward_of_split split]
  simp [textSince]

theorem length_textSince_eatWhile (c : Cursor) (p : Char → Bool) :
    ((c.eatWhile p).textSince c).length = Text.run p c.rest :=
  length_textSince_forward List.takeWhile_append_dropWhile.symm

theorem isAt_eq_startsWith (c : Cursor) (x : Char) : c.isAt x = c.startsWith [x] := by
  rw [isAt, current?, startsWith]
  cases c.rest with
  | nil => rfl
  | cons y r => simp [List.isPrefixOf, BEq.comm (a := y)]

/-- One character is eaten like a text of that character. -/
theorem eat?_eq_eatText? (c : Cursor) (x : Char) : c.eat? x = c.eatText? [x] := by
  rw [eat?, eatText?, isAt_eq_startsWith]
  rfl

theorem orStay_eatText? (c : Cursor) (t : List Char) :
    (t <+: c.rest ∧ c.orStay (c.eatText? t) = (true, c.forward t.length)) ∨
      (¬ t <+: c.rest ∧ c.orStay (c.eatText? t) = (false, c)) := by
  unfold eatText? startsWith
  split
  · next start => exact .inl ⟨List.isPrefixOf_iff_prefix.mp start, rfl⟩
  · next start => exact .inr ⟨fun h => start (List.isPrefixOf_iff_prefix.mpr h), rfl⟩

/-- An operation is answered as promised, and the cursor moves over what is said to be read. -/
def Keeps {β : Type} (c : Cursor) (r : Operation β) : Prop :=
  ∃ taken rest, c.rest = taken ++ rest ∧ r.Means c.before.reverse c.rest (c.answer r).1 taken ∧
    (c.answer r).2 = c.forward taken.length

theorem eatText?_keeps (c : Cursor) (t : List Char) : c.Keeps (.eatText t) := by
  rcases c.orStay_eatText? t with ⟨start, found⟩ | ⟨other, missing⟩
  · obtain ⟨rest, split⟩ := start
    exact ⟨t, rest, split.symm, .inl ⟨congrArg Prod.fst found, rfl, rest, split⟩,
      congrArg Prod.snd found⟩
  · exact ⟨[], c.rest, rfl, .inr ⟨congrArg Prod.fst missing, rfl, other⟩,
      congrArg Prod.snd missing⟩

theorem eatWhile_keeps (c : Cursor) (p : Char → Bool) : c.Keeps (.eatWhile p) := by
  refine ⟨c.rest.takeWhile p, c.rest.dropWhile p, List.takeWhile_append_dropWhile.symm,
    ⟨?_, ?_, ?_⟩, rfl⟩
  · exact c.length_textSince_eatWhile p
  · exact fun x member => List.mem_takeWhile_imp member
  · exact fun w start all => Text.takeWhile_longest start all

theorem eatUntil_keeps (c : Cursor) (mark : List Char) : c.Keeps (.eatUntil mark) := by
  simp only [Keeps, answer, eatUntil]
  split
  · next n found =>
      obtain ⟨w, r, split, rfl, here, first⟩ := Text.find?_go_first found
      rw [Nat.zero_add]
      refine ⟨w, r, split, .inl ⟨rfl, ?_, first⟩, rfl⟩
      rw [split]
      exact (List.prefix_append_right_inj w).mpr here
  · next missing =>
      exact ⟨c.rest, [], (List.append_nil _).symm, .inr ⟨rfl, rfl, Text.find?_go_none missing⟩, rfl⟩

theorem In.keeps (h : In text c) {β : Type} (r : Operation β) : c.Keeps r := by
  cases r with
  | current | peek | lookahead | rest => exact ⟨[], c.rest, rfl, ⟨rfl, rfl⟩, rfl⟩
  | isAt expected => exact ⟨[], c.rest, rfl, ⟨beq_iff_eq, rfl⟩, rfl⟩
  | startsWith t => exact ⟨[], c.rest, rfl, ⟨List.isPrefixOf_iff_prefix, rfl⟩, rfl⟩
  | atEnd => exact ⟨[], c.rest, rfl, ⟨List.isEmpty_iff, rfl⟩, rfl⟩
  | place => exact ⟨[], c.rest, rfl, ⟨h.place_behind, rfl⟩, rfl⟩
  | advance =>
      exact ⟨c.rest.take 1, c.rest.drop 1, (List.take_append_drop 1 c.rest).symm, ⟨rfl, rfl⟩,
        c.advance_eq_forward⟩
  | eat expected =>
      simp only [Keeps, answer, eat?_eq_eatText?]
      exact c.eatText?_keeps [expected]
  | eatText t => exact c.eatText?_keeps t
  | eatWhile p => exact c.eatWhile_keeps p
  | eatUntil mark => exact c.eatUntil_keeps mark

end Cursor

/-! ### Readers keep the promise -/

/-- The characters before a cursor and those ahead. -/
def Cursor.zipper (c : Cursor) : Zipper :=
  ⟨c.before.reverse, c.rest⟩

theorem Cursor.zipper_forward {c : Cursor} {taken rest : List Char}
    (split : c.rest = taken ++ rest) :
    (c.forward taken.length).zipper = ⟨c.before.reverse ++ taken, rest⟩ := by
  rw [Cursor.forward_of_split split, zipper, List.reverse_append, List.reverse_reverse]

namespace Marked

def zipped (s : Marked Cursor Cursor) : Marked Zipper Zipper :=
  ⟨s.cursor.zipper, s.marks.map Cursor.zipper⟩

/-- Cursor and marks stand in the text. -/
structure In (text : List Char) (s : Marked Cursor Cursor) : Prop where
  cursor : s.cursor.In text
  marks : ∀ m ∈ s.marks, m.In text

theorem In.mark {text : List Char} {s : Marked Cursor Cursor} (h : s.In text) :
    Marked.In text ⟨s.cursor, s.marks ++ [s.cursor]⟩ := by
  refine ⟨h.cursor, fun m member => ?_⟩
  rcases List.mem_append.mp member with old | new
  · exact h.marks m old
  · exact List.mem_singleton.mp new ▸ h.cursor

theorem In.restore {text : List Char} {s : Marked Cursor Cursor} (h : s.In text) (i : Nat) :
    Marked.In text ⟨s.marks[i]?.getD s.cursor, s.marks⟩ := by
  refine ⟨?_, h.marks⟩
  cases known : s.marks[i]? with
  | none => exact h.cursor
  | some m => exact h.marks m (List.mem_of_getElem? known)

/-- After a trial that is given back. -/
theorem In.back {text : List Char} {s t : Marked Cursor Cursor} (h : s.In text) (k : t.In text) :
    Marked.In text ⟨s.cursor, t.marks⟩ :=
  ⟨h.cursor, k.marks⟩

theorem zipped_mark (s : Marked Cursor Cursor) :
    zipped ⟨s.cursor, s.marks ++ [s.cursor]⟩ =
      ⟨s.zipped.cursor, s.zipped.marks ++ [s.zipped.cursor]⟩ := by
  simp only [zipped, List.map_append, List.map_singleton]

theorem zipped_restore (s : Marked Cursor Cursor) (i : Nat) :
    zipped ⟨s.marks[i]?.getD s.cursor, s.marks⟩ =
      ⟨s.zipped.marks[i]?.getD s.zipped.cursor, s.zipped.marks⟩ := by
  simp only [zipped, List.getElem?_map, Option.getD_map]

end Marked

namespace Reader

variable {text : List Char} {α β : Type}

theorem run_success {trial : Reader (Option β)} (next : Option β → Reader α)
    {s : Marked Cursor Cursor} {b : β} (h : (trial.run s).1 = some b) :
    (attempt trial next).run s = (next (some b)).run (trial.run s).2 := by
  simp only [run, Cursor.attempt, h, Option.map_some]

theorem run_failure {trial : Reader (Option β)} (next : Option β → Reader α)
    {s : Marked Cursor Cursor} (h : (trial.run s).1 = none) :
    (attempt trial next).run s = (next none).run ⟨s.cursor, (trial.run s).2.marks⟩ := by
  simp only [run, Cursor.attempt, h, Option.map_none]

/-- No reader leaves the text. -/
theorem run_in (reader : Reader α) {s : Marked Cursor Cursor} (h : s.In text) :
    (reader.run s).2.In text := by
  induction reader generalizing s with
  | done => exact h
  | ask r next ih =>
      obtain ⟨taken, -, -, -, moved⟩ := h.cursor.keeps r
      exact ih _ ⟨moved ▸ h.cursor.forward taken.length, h.marks⟩
  | mark next ih => exact ih _ h.mark
  | restore i next ih => exact ih (h.restore i)
  | speculate trial next ihTrial ih => exact ih _ (h.back (ihTrial h))
  | attempt trial next ihTrial ih =>
      cases given : (trial.run s).1 with
      | some b =>
          rw [run_success next given]
          exact ih _ (ihTrial h)
      | none =>
          rw [run_failure next given]
          exact ih _ (h.back (ihTrial h))

/-- From any point of the text a reader gives what it may. -/
theorem run_gives (reader : Reader α) {s : Marked Cursor Cursor} (h : s.In text) :
    reader.Gives s.zipped (reader.run s).1 (reader.run s).2.zipped := by
  induction reader generalizing s with
  | done => exact .done
  | ask r next ih =>
      obtain ⟨taken, rest, split, means, moved⟩ := h.cursor.keeps r
      have later := ih (s.cursor.answer r).1 (s := ⟨(s.cursor.answer r).2, s.marks⟩)
        ⟨moved ▸ h.cursor.forward taken.length, h.marks⟩
      refine .ask split means ?_
      rwa [Marked.zipped, moved, Cursor.zipper_forward split, ← moved] at later
  | mark next ih =>
      have later := ih s.marks.length h.mark
      rw [Marked.zipped_mark] at later
      refine .mark ?_
      rwa [Marked.zipped, List.length_map]
  | restore i next ih =>
      have later := ih (h.restore i)
      rw [Marked.zipped_restore] at later
      exact .restore later
  | speculate trial next ihTrial ih =>
      exact .speculate (ihTrial h) (ih _ (h.back (run_in trial h)))
  | attempt trial next ihTrial ih =>
      have tried := ihTrial h
      cases given : (trial.run s).1 with
      | some b =>
          rw [given] at tried
          rw [run_success next given]
          exact .success tried (ih _ (run_in trial h))
      | none =>
          rw [given] at tried
          rw [run_failure next given]
          exact .failure tried (ih _ (h.back (run_in trial h)))

end Reader

end QueryScan
