/-! Tables of code point ranges and their search by halving. The search is right for tables that
are sorted and disjoint; it makes no promise for others. -/
namespace QueryScan.Unicode

/-- The code points from `first` to `last`, both included. -/
structure Range where
  first : Nat
  last : Nat
deriving DecidableEq, Repr

def Range.Contains (r : Range) (n : Nat) : Prop :=
  r.first ≤ n ∧ n ≤ r.last

instance (r : Range) (n : Nat) : Decidable (r.Contains n) :=
  inferInstanceAs (Decidable (_ ∧ _))

/-- Looks for a range with `n` among the entries `lo` to `hi - 1` by halving. -/
def searchBetween (table : Array Range) (n lo hi : Nat) (bound : hi ≤ table.size) : Bool :=
  if h : lo < hi then
    let mid := lo + (hi - lo) / 2
    have inside : mid < table.size := by omega
    if n < table[mid].first then
      searchBetween table n lo mid (by omega)
    else if table[mid].last < n then
      searchBetween table n (mid + 1) hi bound
    else
      true
  else
    false
termination_by hi - lo

def inTable (table : Array Range) (n : Nat) : Bool :=
  searchBetween table n 0 table.size (Nat.le_refl _)

end QueryScan.Unicode
