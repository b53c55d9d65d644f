import QueryScan.Unicode.CharClass
import Mathlib.Data.List.Pairwise

/-! Sorted tables of ranges, and the character classes that are read from them. A search by halving
sees a few entries only; that the others cannot hold the code point is what the order of the table
promises. The short ways for ASCII give what the tables give. -/
namespace QueryScan.Unicode

/-! ### Tables in order -/

/-- The bounds of every range are in order, and the ranges are sorted and have no code point in
common. -/
structure Ordered (table : Array Range) : Prop where
  bounds : ∀ r ∈ table.toList, r.first ≤ r.last
  sorted : table.toList.Pairwise fun r s => r.first ≤ s.first
  disjoint : table.toList.Pairwise fun r s => ∀ n, ¬(r.Contains n ∧ s.Contains n)

/-- A range ends before every later one begins. -/
theorem Ordered.apart {table : Array Range} (h : Ordered table) :
    table.toList.Pairwise fun r s => r.last < s.first := by
  refine (h.sorted.and h.disjoint).imp_of_mem ?_
  rintro r s - inTable ⟨low, none⟩
  by_contra meet
  exact none s.first ⟨⟨low, Nat.not_lt.mp meet⟩, Nat.le_refl _, h.bounds s inTable⟩

/-- Ranges that end before their neighbour begins end before every later one begins. -/
theorem pairwise_of_neighbours {l : List Range} (bounds : ∀ r ∈ l, r.first ≤ r.last)
    (chain : l.IsChain fun r s => r.last < s.first) : l.Pairwise fun r s => r.last < s.first := by
  -- The step from neighbour to neighbour is transitive only over ranges with ordered bounds.
  induction l with
  | nil => exact .nil
  | cons r l ih =>
      have later := ih (fun s member => bounds s (List.mem_cons_of_mem r member)) chain.of_cons
      refine List.pairwise_cons.mpr ⟨?_, later⟩
      cases l with
      | nil => nofun
      | cons s l =>
          have next : r.last < s.first := (List.isChain_cons_cons.mp chain).1
          intro t member
          rcases List.mem_cons.mp member with rfl | beyond
          · exact next
          · calc r.last < s.first := next
              _ ≤ s.last := bounds s (List.mem_cons_of_mem r List.mem_cons_self)
              _ < t.first := List.rel_of_pairwise_cons later beyond

/-- To compare every range with the next is enough. -/
theorem ordered_iff_neighbours (table : Array Range) :
    Ordered table ↔ (∀ r ∈ table.toList, r.first ≤ r.last) ∧
      table.toList.IsChain fun r s => r.last < s.first := by
  constructor
  · intro h
    exact ⟨h.bounds, h.apart.isChain⟩
  · rintro ⟨bounds, chain⟩
    have apart := pairwise_of_neighbours bounds chain
    refine ⟨bounds, apart.imp_of_mem ?_, apart.imp ?_⟩
    · intro r s inTable _ before
      exact Nat.le_of_lt (Nat.lt_of_le_of_lt (bounds r inTable) before)
    · rintro r s before n ⟨⟨-, high⟩, low, -⟩
      omega

instance (table : Array Range) : Decidable (Ordered table) :=
  decidable_of_iff _ (ordered_iff_neighbours table).symm

/-! ### The search by halving -/

/-- What the search finds is there, for sorted and unsorted tables alike. -/
theorem exists_contains_of_searchBetween {table : Array Range} {n lo hi : Nat}
    {bound : hi ≤ table.size} (h : searchBetween table n lo hi bound = true) :
    ∃ r ∈ table.toList, r.Contains n := by
  fun_induction searchBetween table n lo hi bound with
  | case1 lo hi bound lt mid inside below ih => exact ih h
  | case2 lo hi bound lt mid inside notBelow above ih => exact ih h
  | case3 lo hi bound lt mid inside notBelow notAbove =>
      refine ⟨table[mid], Array.getElem_mem_toList inside, ?_⟩
      exact ⟨Nat.not_lt.mp notBelow, Nat.not_lt.mp notAbove⟩
  | case4 lo hi bound ge => contradiction

theorem exists_contains_of_inTable {table : Array Range} {n : Nat} (h : inTable table n = true) :
    ∃ r ∈ table.toList, r.Contains n :=
  exists_contains_of_searchBetween h

namespace Ordered

variable {table : Array Range} {n i j : Nat} {hi : i < table.size} {hj : j < table.size}

theorem first_le (h : Ordered table) (order : i ≤ j) : table[i].first ≤ table[j].first := by
  rcases Nat.eq_or_lt_of_le order with rfl | before
  · exact Nat.le_refl _
  · exact List.pairwise_iff_getElem.mp h.sorted i j hi hj before

theorem last_le (h : Ordered table) (order : i ≤ j) : table[i].last ≤ table[j].last := by
  rcases Nat.eq_or_lt_of_le order with rfl | before
  · exact Nat.le_refl _
  · have apart : table[i].last < table[j].first :=
      List.pairwise_iff_getElem.mp h.apart i j hi hj before
    exact Nat.le_trans (Nat.le_of_lt apart) (h.bounds _ (Array.getElem_mem_toList hj))

/-- A code point below a range is in none of the ranges from there on. -/
theorem lt_of_below (h : Ordered table) (here : table[i].Contains n)
    (below : n < table[j].first) : i < j := by
  by_contra behind
  have order : table[j].first ≤ table[i].first := h.first_le (Nat.not_lt.mp behind)
  exact Nat.not_lt.mpr (Nat.le_trans order here.1) below

/-- A code point above a range is in none of the ranges up to there. -/
theorem lt_of_above (h : Ordered table) (here : table[i].Contains n)
    (above : table[j].last < n) : j < i := by
  by_contra before
  have order : table[i].last ≤ table[j].last := h.last_le (Nat.not_lt.mp before)
  exact Nat.not_lt.mpr (Nat.le_trans here.2 order) above

/-- The half that is given up does not hold the code point, so a range that does is found. -/
theorem searchBetween_of_contains (h : Ordered table) {lo top : Nat} {bound : top ≤ table.size}
    (here : table[i].Contains n) (low : lo ≤ i) (high : i < top) :
    searchBetween table n lo top bound = true := by
  fun_induction searchBetween table n lo top bound with
  | case1 lo top bound lt mid inside below ih => exact ih low (h.lt_of_below here below)
  | case2 lo top bound lt mid inside notBelow above ih => exact ih (h.lt_of_above here above) high
  | case3 lo top bound lt mid inside notBelow notAbove => rfl
  | case4 lo top bound ge => exact absurd (Nat.lt_of_le_of_lt low high) ge

end Ordered

/-- In an ordered table the search finds exactly what is there. -/
theorem Ordered.inTable_iff {table : Array Range} (h : Ordered table) (n : Nat) :
    inTable table n = true ↔ ∃ r ∈ table.toList, r.Contains n := by
  constructor
  · exact exists_contains_of_inTable
  · rintro ⟨r, member, here⟩
    obtain ⟨i, hi, rfl⟩ := List.getElem_of_mem member
    exact h.searchBetween_of_contains here (Nat.zero_le i) hi

/-- Where the order is broken, a range may be missed. -/
example : inTable #[⟨5, 6⟩, ⟨1, 2⟩] 5 = false := by
  decide +kernel

/-! ### Tables with nothing in common -/

/-- No code point lies in both tables. -/
def Apart (t u : Array Range) : Prop :=
  ∀ a ∈ t.toList, ∀ b ∈ u.toList, a.last < b.first ∨ b.last < a.first

theorem apart_iff_all (t u : Array Range) :
    (t.toList.all fun a => u.toList.all fun b => a.last.blt b.first || b.last.blt a.first) = true ↔
      Apart t u := by
  simp only [Apart, List.all_eq_true, Bool.or_eq_true, Nat.blt_eq]

instance (t u : Array Range) : Decidable (Apart t u) :=
  decidable_of_iff _ (apart_iff_all t u)

instance : Std.Symm Apart where
  symm _ _ h b inU a inT := (h a inT b inU).symm

/-! ### Classes with a table -/

theorem isAlpha_iff_toNat {c : Char} :
    c.isAlpha = true ↔ (65 ≤ c.toNat ∧ c.toNat ≤ 90) ∨ (97 ≤ c.toNat ∧ c.toNat ≤ 122) := by
  change (decide (c.val ≥ 'A'.val ∧ c.val ≤ 'Z'.val) ||
    (c.val ≥ 'a'.val && c.val ≤ 'z'.val)) = true ↔ _
  simp only [Bool.or_eq_true, Bool.and_eq_true, decide_eq_true_eq, ge_iff_le,
    UInt32.le_iff_toNat_le]
  exact Iff.rfl

/-- A class of characters that has a table of its own. -/
inductive TableClass where
  | baseChar | ideographic | combining | digit | extender
deriving DecidableEq, Repr

namespace TableClass

def table : TableClass → Array Range
  | baseChar => Xml.baseCharTable
  | ideographic => Xml.ideographicTable
  | combining => Xml.combiningCharTable
  | digit => Xml.digitTable
  | extender => Xml.extenderTable

/-- The test for the class. All but one have a short way for ASCII. -/
def holds : TableClass → Char → Bool
  | baseChar => isBaseChar
  | ideographic => isIdeographic
  | combining => isCombining
  | digit => isDigit
  | extender => isExtender

/-- The ranges of the table that begin in ASCII. -/
def asciiRanges : TableClass → List Range
  | baseChar => [⟨65, 90⟩, ⟨97, 122⟩]
  | digit => [⟨48, 57⟩]
  | ideographic | combining | extender => []

def Lists (k : TableClass) (c : Char) : Prop :=
  ∃ r ∈ k.table.toList, r.Contains c.toNat

def all : List TableClass :=
  [baseChar, ideographic, combining, digit, extender]

theorem mem_all (k : TableClass) : k ∈ all := by
  cases k <;> decide

theorem table_ordered (k : TableClass) : Ordered k.table := by
  cases k <;> decide +kernel

theorem tables_apart {k l : TableClass} (other : k ≠ l) : Apart k.table l.table := by
  have pairs : (all.map table).Pairwise Apart := by decide +kernel
  exact (List.pairwise_map.mp pairs).forall k.mem_all l.mem_all other

theorem filter_table (k : TableClass) :
    k.table.toList.filter (fun r => r.first < 128) = k.asciiRanges := by
  cases k <;> decide +kernel

theorem lists_iff_of_isAscii (k : TableClass) {c : Char} (ascii : isAscii c = true) :
    k.Lists c ↔ ∃ r ∈ k.asciiRanges, r.Contains c.toNat := by
  have below : c.toNat < 128 := by simpa [isAscii] using ascii
  rw [← filter_table]
  constructor
  · rintro ⟨r, member, here⟩
    have first : r.first < 128 := Nat.lt_of_le_of_lt here.1 below
    exact ⟨r, List.mem_filter.mpr ⟨member, decide_eq_true first⟩, here⟩
  · rintro ⟨r, member, here⟩
    exact ⟨r, (List.mem_filter.mp member).1, here⟩

/-- In ASCII a test finds the ranges that begin there, with or without its table. -/
theorem holds_iff_of_isAscii (k : TableClass) {c : Char} (ascii : isAscii c = true) :
    k.holds c = true ↔ ∃ r ∈ k.asciiRanges, r.Contains c.toNat := by
  cases k with
  | baseChar => simp [holds, isBaseChar, ascii, isAlpha_iff_toNat, asciiRanges, Range.Contains]
  | ideographic =>
      rw [← lists_iff_of_isAscii ideographic ascii]
      exact (table_ordered ideographic).inTable_iff c.toNat
  | combining => simp [holds, isCombining, ascii, asciiRanges]
  | digit => simp [holds, isDigit, ascii, Char.isDigit_iff_toNat, asciiRanges, Range.Contains]
  | extender => simp [holds, isExtender, ascii, asciiRanges]

theorem holds_of_not_isAscii (k : TableClass) {c : Char} (other : isAscii c = false) :
    k.holds c = inTable k.table c.toNat := by
  cases k <;>
    simp [holds, isBaseChar, isIdeographic, isCombining, isDigit, isExtender, table, other]

theorem holds_iff (k : TableClass) (c : Char) : k.holds c = true ↔ k.Lists c := by
  cases ascii : isAscii c with
  | true => rw [k.holds_iff_of_isAscii ascii, k.lists_iff_of_isAscii ascii]
  | false =>
      rw [k.holds_of_not_isAscii ascii]
      exact k.table_ordered.inTable_iff c.toNat

theorem unique {k l : TableClass} {c : Char} (first : k.holds c = true)
    (second : l.holds c = true) : k = l := by
  by_contra other
  obtain ⟨a, inK, low, high⟩ := (k.holds_iff c).mp first
  obtain ⟨b, inL, low', high'⟩ := (l.holds_iff c).mp second
  rcases tables_apart other a inK b inL with before | behind <;> omega

end TableClass

end QueryScan.Unicode
