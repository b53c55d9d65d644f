import QueryScan.Text.Find
import Mathlib.Data.List.TakeWhile

/-! Runs, marks and pieces, seen as prefixes of the text. A mark is found at its first occurrence;
that it is found behind a text without the mark is only promised for marks that do not overlap
themselves. -/
namespace QueryScan.Text

theorem run_cons_of_pos {p : Char → Bool} {c : Char} (r : List Char) (h : p c = true) :
    run p (c :: r) = run p r + 1 := by
  simp [run, h]

theorem run_cons_of_neg {p : Char → Bool} {c : Char} (r : List Char) (h : p c = false) :
    run p (c :: r) = 0 := by
  simp [run, h]

theorem run_append {p : Char → Bool} {w : List Char} (r : List Char) (h : ∀ c ∈ w, p c = true) :
    run p (w ++ r) = w.length + run p r := by
  simp only [run, List.takeWhile_append_of_pos h, List.length_append]

/-- The run splits the text into characters of the class and a rest that does not go on. -/
theorem run_split (p : Char → Bool) (cs : List Char) :
    ∃ w r, cs = w ++ r ∧ run p cs = w.length ∧ (∀ c ∈ w, p c = true) ∧
      ∀ c ∈ r.head?, p c = false := by
  refine ⟨cs.takeWhile p, cs.dropWhile p, List.takeWhile_append_dropWhile.symm, rfl, ?_, ?_⟩
  · intro c member
    exact List.mem_takeWhile_imp member
  · intro c head
    have := List.head?_dropWhile_not p cs
    rw [Option.mem_def] at head
    simpa [head] using this

/-- A run that reaches to the end of `w` holds all of `w`. -/
theorem forall_of_run_append {p : Char → Bool} {w r : List Char}
    (h : run p (w ++ r) = w.length) : ∀ c ∈ w, p c = true := by
  intro c member
  have same : (w ++ r).takeWhile p = w :=
    (List.prefix_of_prefix_length_le (List.takeWhile_prefix p) (List.prefix_append w r)
      (Nat.le_of_eq h)).eq_of_length h
  rw [← same] at member
  exact List.mem_takeWhile_imp member

/-- A run stays as long when the text behind it is cut off. -/
theorem run_of_run_append {p : Char → Bool} {w r : List Char}
    (h : run p (w ++ r) = w.length) : run p w = w.length := by
  have whole := run_append [] (forall_of_run_append h)
  rwa [List.append_nil] at whole

theorem stripStart?_append (mark r : List Char) : stripStart? mark (mark ++ r) = some r := by
  have start : mark.isPrefixOf (mark ++ r) = true :=
    List.isPrefixOf_iff_prefix.mpr (List.prefix_append mark r)
  rw [stripStart?, if_pos start, List.drop_left]

theorem stripEnd?_append (mark w : List Char) : stripEnd? mark (w ++ mark) = some w := by
  have last : mark.isSuffixOf (w ++ mark) = true :=
    List.isSuffixOf_iff_suffix.mpr (List.suffix_append w mark)
  rw [stripEnd?, if_pos last, List.length_append, Nat.add_sub_cancel, List.take_left]

/-- Without its two marks a text is what stands between them. -/
theorem strip_marks (front body mark : List Char) :
    (stripStart? front (front ++ (body ++ mark))).bind (stripEnd? mark) = some body := by
  rw [stripStart?_append, Option.bind_some, stripEnd?_append]

theorem find?_go_eq_some {mark : List Char} {k n : Nat} {cs : List Char} (ne : mark ≠ [])
    (h : find?.go mark k cs = some n) :
    ∃ w r, cs = w ++ (mark ++ r) ∧ n = k + w.length ∧
      ∀ u v, w ++ mark = u ++ mark ++ v → v = [] := by
  induction cs generalizing k with
  | nil => simp [find?.go, ne] at h
  | cons c cs ih =>
      simp only [find?.go] at h
      split at h
      · next start =>
        cases h
        obtain ⟨r, split⟩ := List.isPrefixOf_iff_prefix.mp start
        refine ⟨[], r, split.symm, rfl, ?_⟩
        intro u v same
        have lengths := congrArg List.length same
        simp only [List.nil_append, List.length_append] at lengths
        exact List.length_eq_zero_iff.mp (by omega)
      · next start =>
        obtain ⟨w, r, rfl, rfl, first⟩ := ih h
        refine ⟨c :: w, r, rfl, by simp only [List.length_cons]; omega, ?_⟩
        intro u v same
        cases u with
        | nil =>
            -- An occurrence at the very start would have been found there.
            refine absurd (List.isPrefixOf_iff_prefix.mpr ?_) start
            exact ⟨v ++ r, by simpa using congrArg (· ++ r) same.symm⟩
        | cons x u =>
            simp only [List.cons_append, List.cons.injEq] at same
            exact first u v same.2

/-- A mark is found behind a text whose first occurrence of it is at its end. -/
theorem find?_eq_some {mark cs : List Char} {n : Nat} (ne : mark ≠ [])
    (h : find? mark cs = some n) :
    ∃ w r, cs = w ++ (mark ++ r) ∧ n = w.length ∧ ∀ u v, w ++ mark = u ++ mark ++ v → v = [] := by
  obtain ⟨w, r, same, rfl, first⟩ := find?_go_eq_some ne h
  exact ⟨w, r, same, by omega, first⟩

/-- No end of the mark, short of all of it, starts the mark. -/
def Unbordered (mark : List Char) : Prop :=
  ∀ j, 0 < j → j < mark.length → ¬ mark.drop j <+: mark

instance (mark : List Char) : Decidable (Unbordered mark) :=
  decidable_of_iff (∀ j, j < mark.length → 0 < j → ¬ mark.drop j <+: mark)
    ⟨fun h j pos lt => h j lt pos, fun h j lt pos => h j pos lt⟩

/-- In front of an unbordered mark no occurrence starts that is not already in the text before. -/
theorem not_isPrefix_append {mark w : List Char} (r : List Char) (free : Unbordered mark)
    (ne : w ≠ []) (without : ¬ mark <+: w) : ¬ mark <+: w ++ (mark ++ r) := by
  intro start
  rcases List.prefix_or_prefix_of_prefix start (List.prefix_append w (mark ++ r)) with h | h
  · exact without h
  · obtain ⟨t, rfl⟩ := h
    have inner : t <+: (w ++ t) ++ r := (List.prefix_append_right_inj w).mp start
    have border : t <+: w ++ t :=
      List.prefix_of_prefix_length_le inner (List.prefix_append _ _) (by simp)
    have short : w.length < (w ++ t).length := by
      rcases Nat.eq_zero_or_pos t.length with none | some
      · refine absurd ?_ without
        simp [List.length_eq_zero_iff.mp none]
      · rw [List.length_append]
        omega
    refine free w.length (List.length_pos_iff.mpr ne) short ?_
    simpa using border

theorem find?_go_append {mark w : List Char} (k : Nat) (r : List Char) (ne : mark ≠ [])
    (free : Unbordered mark) (without : ¬ mark <:+: w) :
    find?.go mark k (w ++ (mark ++ r)) = some (k + w.length) := by
  induction w generalizing k with
  | nil =>
      obtain ⟨c, t, rfl⟩ := List.exists_cons_of_ne_nil ne
      have start : (c :: t).isPrefixOf (c :: (t ++ r)) = true :=
        List.isPrefixOf_iff_prefix.mpr (List.prefix_append (c :: t) r)
      simp only [List.nil_append, List.cons_append, find?.go, start, if_true, List.length_nil,
        Nat.add_zero]
  | cons c w ih =>
      have here : ¬ mark.isPrefixOf (c :: (w ++ (mark ++ r))) = true := by
        intro start
        refine not_isPrefix_append r free (List.cons_ne_nil c w) ?_
          (List.isPrefixOf_iff_prefix.mp start)
        exact fun h => without h.isInfix
      have later : ¬ mark <:+: w := fun h => without (List.infix_cons h)
      rw [List.cons_append, find?.go, if_neg here, ih (k + 1) later, List.length_cons]
      congr 1
      omega

/-- A mark that does not overlap itself is found behind a text without it. -/
theorem find?_append {mark w : List Char} (r : List Char) (ne : mark ≠ [])
    (free : Unbordered mark) (without : ¬ mark <:+: w) :
    find? mark (w ++ (mark ++ r)) = some w.length := by
  simpa [find?] using find?_go_append 0 r ne free without

/-- No occurrence starts in a text without the first character of the mark. -/
theorem not_infix_append {a : Char} {mark front w : List Char} (free : a ∉ front)
    (without : ¬ (a :: mark) <:+: w) : ¬ (a :: mark) <:+: front ++ w := by
  induction front with
  | nil => exact without
  | cons c front ih =>
      intro inner
      rcases List.infix_cons_iff.mp inner with start | later
      · have same : a = c := (List.cons_prefix_cons.mp start).1
        exact free (same ▸ List.mem_cons_self)
      · exact ih (fun member => free (List.mem_cons_of_mem c member)) later

/-- The text with the mark behind it ends at the first occurrence of the mark. -/
def EndsAtFirst (mark w : List Char) : Prop :=
  ∀ u v, w ++ mark = u ++ mark ++ v → v = []

theorem endsAtFirst_of_absent {mark w : List Char} (free : Unbordered mark)
    (without : ¬ mark <:+: w) : EndsAtFirst mark w := by
  intro u v same
  have lengths := congrArg List.length same
  simp only [List.length_append] at lengths
  have start : u <+: w ++ mark := by
    rw [same, List.append_assoc]
    exact List.prefix_append u (mark ++ v)
  by_cases early : u.length < w.length
  · -- An earlier occurrence starts inside the text and would reach into the mark.
    obtain ⟨t, rfl⟩ := List.prefix_of_prefix_length_le start (List.prefix_append w mark)
      (Nat.le_of_lt early)
    have ne : t ≠ [] := by
      rintro rfl
      simp at early
    have inner : t ++ (mark ++ []) = mark ++ v := by
      rw [List.append_assoc, List.append_assoc, List.append_cancel_left_eq] at same
      rwa [List.append_nil]
    refine absurd ⟨v, inner.symm⟩ (not_isPrefix_append [] free ne ?_)
    intro h
    exact without (h.isInfix.trans (List.suffix_append u t).isInfix)
  · exact List.length_eq_zero_iff.mp (by omega)

/-- A mark that occurs first at the end is not found in what is cut off before that end. -/
theorem find?_of_cut {mark w p : List Char} (ne : mark ≠ []) (first : EndsAtFirst mark w)
    (cut : p <+: w ++ mark) (proper : p ≠ w ++ mark) : find? mark p = none := by
  cases found : find? mark p with
  | none => rfl
  | some n =>
      obtain ⟨u, r, rfl, -, -⟩ := find?_eq_some ne found
      obtain ⟨t, whole⟩ := cut
      have nothing : r ++ t = [] := first u (r ++ t) (by simp [← whole])
      rw [(List.append_eq_nil_iff.mp nothing).2, List.append_nil] at whole
      exact absurd whole proper

theorem not_infix_of_first {mark w : List Char} (ne : mark ≠ [])
    (first : ∀ u v, w ++ mark = u ++ mark ++ v → v = []) : ¬ mark <:+: w := by
  rintro ⟨u, v, rfl⟩
  have nothing := first u (v ++ mark) (by simp)
  exact ne (List.append_eq_nil_iff.mp nothing).2

/-! ### Pieces -/

/-- From left to right the text is cut into these pieces, up to a rest. Whether a piece fits can
depend on all that follows it. -/
inductive Cut {α : Type} (chars : α → List Char) (fits : α → List Char → Prop) :
    List Char → List α → List Char → Prop
  | nil {rest} : Cut chars fits rest [] rest
  | cons {p r ps rest} : fits p r → Cut chars fits r ps rest →
      Cut chars fits (chars p ++ r) (p :: ps) rest

section Cut

variable {α : Type} {chars : α → List Char} {fits : α → List Char → Prop}

theorem Cut.split {r rest : List Char} {ps : List α} (h : Cut chars fits r ps rest) :
    r = ps.flatMap chars ++ rest := by
  induction h with
  | nil => rfl
  | @cons p r ps rest _ _ ih => rw [List.flatMap_cons, List.append_assoc, ← ih]

theorem Cut.forall_mem {Q : α → Prop} (each : ∀ p r, fits p r → Q p) {r rest : List Char}
    {ps : List α} (h : Cut chars fits r ps rest) : ∀ p ∈ ps, Q p := by
  induction h with
  | nil => exact nofun
  | cons fit _ ih => exact List.forall_mem_cons.mpr ⟨each _ _ fit, ih⟩

theorem exists_cut (chars : α → List Char) (fits : α → List Char → Prop)
    (filled : ∀ p r, fits p r → chars p ≠ []) (r : List Char) :
    ∃ ps rest, Cut chars fits r ps rest ∧ ∀ p t, rest = chars p ++ t → ¬ fits p t := by
  -- A piece may be of any length, so the induction is on the length of what is left.
  induction size : r.length using Nat.strong_induction_on generalizing r with
  | _ n ih =>
      subst size
      by_cases more : ∃ p t, r = chars p ++ t ∧ fits p t
      · obtain ⟨p, t, rfl, fit⟩ := more
        have shorter : t.length < (chars p ++ t).length := by
          have := List.length_pos_iff.mpr (filled p t fit)
          rw [List.length_append]
          omega
        obtain ⟨ps, rest, later, stuck⟩ := ih t.length shorter t rfl
        exact ⟨p :: ps, rest, .cons fit later, stuck⟩
      · exact ⟨[], r, .nil, fun p t split fit => more ⟨p, t, split, fit⟩⟩

end Cut

end QueryScan.Text
