import QueryScan.Proofs.Listings
import Mathlib.Algebra.GroupWithZero.Nat
import Mathlib.Data.List.Induction

/-! The counts of a listing. They are taken in one pass, so what is known of them is known of the
tokens read so far: one entry for each label, in the order of first occurrence, and none else. That
keywords share an entry, and no other kinds do, is a fact about the labels. -/
namespace QueryScan

/-- The kind has a word of its own. -/
def Kind.isKeyword : Kind → Bool
  | keyword _ => true
  | _ => false

theorem Kind.label_eq_keyword_iff (k : Kind) : k.label = "Keyword" ↔ k.isKeyword = true := by
  constructor
  · intro same
    rcases label_inj (same.trans (rfl : _ = (keyword .for_).label)) with rfl | ⟨v, w, rfl, -⟩
    · rfl
    · rfl
  · intro word
    cases k with
    | keyword w => rfl
    | _ => contradiction

/-- A kind other than a keyword has its label for itself. -/
theorem Kind.label_eq_iff {j k : Kind} (plainK : k ∈ plain) : j.label = k.label ↔ j = k := by
  constructor
  · intro same
    rcases label_inj same with rfl | ⟨v, w, -, rfl⟩
    · rfl
    · exact absurd plainK (by simp [plain])
  · intro same
    rw [same]

namespace Listing

/-! ### One more label -/

theorem labels_bump (label : String) (counts : List (String × Nat)) :
    (bump label counts).map Prod.fst =
      if label ∈ counts.map Prod.fst then counts.map Prod.fst
      else counts.map Prod.fst ++ [label] := by
  induction counts with
  | nil => rfl
  | cons entry rest ih =>
      obtain ⟨l, n⟩ := entry
      by_cases same : l = label
      · simp [bump, same]
      · simp only [bump, if_neg same, List.map_cons, ih, List.mem_cons, Ne.symm same, false_or]
        split <;> rfl

theorem sum_bump (label : String) (counts : List (String × Nat)) :
    ((bump label counts).map Prod.snd).sum = (counts.map Prod.snd).sum + 1 := by
  induction counts with
  | nil => rfl
  | cons entry rest ih =>
      obtain ⟨l, n⟩ := entry
      by_cases same : l = label
      · simp only [bump, if_pos same, List.map_cons, List.sum_cons]
        omega
      · simp only [bump, if_neg same, List.map_cons, List.sum_cons, ih]
        omega

/-- Only the entry of the label changes; it grows by one, or starts with one. -/
theorem mem_bump {label : String} {counts : List (String × Nat)} {e : String × Nat}
    (distinct : (counts.map Prod.fst).Nodup) (member : e ∈ bump label counts) :
    (e.1 ≠ label ∧ e ∈ counts) ∨ (∃ n, (label, n) ∈ counts ∧ e = (label, n + 1)) ∨
      (label ∉ counts.map Prod.fst ∧ e = (label, 1)) := by
  induction counts with
  | nil => exact .inr (.inr ⟨List.not_mem_nil, List.mem_singleton.mp member⟩)
  | cons entry rest ih =>
      obtain ⟨l, n⟩ := entry
      obtain ⟨fresh, later⟩ := List.nodup_cons.mp distinct
      by_cases same : l = label
      · subst same
        rw [bump, if_pos rfl] at member
        rcases List.mem_cons.mp member with rfl | inRest
        · exact .inr (.inl ⟨n, List.mem_cons_self, rfl⟩)
        · refine .inl ⟨?_, List.mem_cons_of_mem _ inRest⟩
          intro same
          exact fresh (List.mem_map.mpr ⟨e, inRest, same⟩)
      · rw [bump, if_neg same] at member
        rcases List.mem_cons.mp member with rfl | inRest
        · exact .inl ⟨same, List.mem_cons_self⟩
        · rcases ih later inRest with ⟨other, old⟩ | ⟨m, old, grown⟩ | ⟨absent, first⟩
          · exact .inl ⟨other, List.mem_cons_of_mem _ old⟩
          · exact .inr (.inl ⟨m, List.mem_cons_of_mem _ old, grown⟩)
          · refine .inr (.inr ⟨?_, first⟩)
            rw [List.map_cons, List.mem_cons]
            exact fun known => known.elim (fun h => same h.symm) absent

/-! ### All labels so far -/

/-- The counts are those of the labels, which have been read in this order. -/
structure Tally (labels : List String) (counts : List (String × Nat)) : Prop where
  listed : ∀ l, l ∈ counts.map Prod.fst ↔ l ∈ labels
  ordered : (counts.map Prod.fst).Pairwise fun a b => labels.idxOf a < labels.idxOf b
  counted : ∀ e ∈ counts, e.2 = labels.count e.1
  total : (counts.map Prod.snd).sum = labels.length

namespace Tally

variable {labels : List String} {counts : List (String × Nat)}

theorem distinct (h : Tally labels counts) : (counts.map Prod.fst).Nodup := by
  refine h.ordered.imp ?_
  rintro a b earlier rfl
  exact Nat.lt_irrefl _ earlier

/-- Labels keep the place of their first occurrence, and a new one comes behind them all. -/
theorem ordered_bump (h : Tally labels counts) (label : String) :
    ((bump label counts).map Prod.fst).Pairwise fun a b =>
      (labels ++ [label]).idxOf a < (labels ++ [label]).idxOf b := by
  have kept : (counts.map Prod.fst).Pairwise fun a b =>
      (labels ++ [label]).idxOf a < (labels ++ [label]).idxOf b := by
    refine h.ordered.imp_of_mem ?_
    intro a b knownA knownB earlier
    rwa [List.idxOf_append_of_mem ((h.listed a).mp knownA),
      List.idxOf_append_of_mem ((h.listed b).mp knownB)]
  rw [labels_bump]
  split
  · exact kept
  · next fresh =>
      have unread : label ∉ labels := fun read => fresh ((h.listed label).mpr read)
      refine List.pairwise_append.mpr ⟨kept, List.pairwise_singleton _ _, ?_⟩
      intro a known b last
      have read := (h.listed a).mp known
      rw [List.mem_singleton.mp last, List.idxOf_append_of_mem read,
        List.idxOf_append_of_notMem unread]
      exact Nat.lt_of_lt_of_le (List.idxOf_lt_length_of_mem read) (Nat.le_add_right _ _)

theorem counted_bump (h : Tally labels counts) (label : String) :
    ∀ e ∈ bump label counts, e.2 = (labels ++ [label]).count e.1 := by
  intro e member
  rcases mem_bump h.distinct member with ⟨other, old⟩ | ⟨n, old, rfl⟩ | ⟨fresh, rfl⟩
  · rw [List.count_append, List.count_singleton, if_neg (by simpa using other.symm),
      h.counted e old, Nat.add_zero]
  · rw [List.count_append, List.count_singleton_self, ← h.counted _ old]
  · have unread : label ∉ labels := fun read => fresh ((h.listed label).mpr read)
    rw [List.count_append, List.count_singleton_self, List.count_eq_zero.mpr unread]

theorem bump (h : Tally labels counts) (label : String) :
    Tally (labels ++ [label]) (bump label counts) := by
  refine ⟨?_, h.ordered_bump label, h.counted_bump label, ?_⟩
  · intro l
    rw [labels_bump, List.mem_append, List.mem_singleton, ← h.listed]
    split
    · next known => exact ⟨.inl, fun read => read.elim id fun same => same ▸ known⟩
    · rw [List.mem_append, List.mem_singleton]
  · rw [sum_bump, h.total, List.length_append, List.length_singleton]

end Tally

theorem countKinds_tally (tokens : List Token) :
    Tally (tokens.map fun t => t.kind.label) (countKinds tokens) := by
  -- The pass goes from the left, so the last token is the one added.
  induction tokens using List.reverseRecOn with
  | nil => exact ⟨fun l => Iff.rfl, .nil, nofun, rfl⟩
  | append_singleton tokens t ih =>
      rw [List.map_append, countKinds, List.foldl_append]
      exact ih.bump t.kind.label

/-! ### Kinds -/

/-- The counts show every kind of the tokens, and how often it occurs. -/
structure CountsKinds (tokens : List Token) (counts : List (String × Nat)) : Prop where
  distinct : (counts.map Prod.fst).Nodup
  /-- Entries stand in the order of the first token of their label. -/
  ordered : (counts.map Prod.fst).Pairwise fun a b =>
    (tokens.map fun t => t.kind.label).idxOf a < (tokens.map fun t => t.kind.label).idxOf b
  listed : ∀ l, l ∈ counts.map Prod.fst ↔ ∃ t ∈ tokens, t.kind.label = l
  counted : ∀ e ∈ counts, e.2 = tokens.countP fun t => t.kind.label = e.1
  /-- All keywords are counted under one label. -/
  keywords : ∀ n, ("Keyword", n) ∈ counts → n = tokens.countP fun t => t.kind.isKeyword
  /-- Every other kind is counted by itself. -/
  plain : ∀ k ∈ Kind.plain, ∀ n, (k.label, n) ∈ counts → n = tokens.countP fun t => t.kind = k
  total : (counts.map Prod.snd).sum = tokens.length

theorem countKinds_faithful (tokens : List Token) : CountsKinds tokens (countKinds tokens) := by
  have tally := countKinds_tally tokens
  have counted : ∀ e ∈ countKinds tokens, e.2 = tokens.countP fun t => t.kind.label = e.1 := by
    intro e member
    rw [tally.counted e member, List.count, List.countP_map]
    exact List.countP_congr fun t _ => by simp
  refine ⟨tally.distinct, tally.ordered, ?_, counted, ?_, ?_, ?_⟩
  · intro l
    rw [tally.listed, List.mem_map]
  · intro n member
    refine (counted _ member).trans (List.countP_congr fun t _ => ?_)
    simpa using t.kind.label_eq_keyword_iff
  · intro k plainK n member
    refine (counted _ member).trans (List.countP_congr fun t _ => ?_)
    simpa using Kind.label_eq_iff plainK
  · rw [tally.total, List.length_map]

example : countKinds [⟨.symbol .dollar, "$", ⟨0, 1, 1, 1⟩⟩, ⟨.keyword .for_, "for", ⟨1, 4, 1, 2⟩⟩,
    ⟨.name, "a", ⟨5, 6, 1, 6⟩⟩, ⟨.keyword .in_, "in", ⟨7, 9, 1, 8⟩⟩,
    ⟨.symbol .dollar, "$", ⟨9, 10, 1, 10⟩⟩] = [("Dollar", 2), ("Keyword", 2), ("NcName", 1)] := by
  decide

end Listing

end QueryScan
