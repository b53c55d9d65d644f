/-! Runs and marks in a list of characters. Every result is a number of characters. -/
namespace QueryScan.Text

/-- Length of the longest start of `cs` whose characters all satisfy `p`. -/
def run (p : Char → Bool) (cs : List Char) : Nat :=
  (cs.takeWhile p).length

/-- Characters before the first occurrence of `mark`; none when it does not occur. An empty mark
occurs at once. -/
def find? (mark cs : List Char) : Option Nat :=
  go 0 cs
where
  /-- The search after `n` characters without an occurrence. -/
  go (n : Nat) : List Char → Option Nat
    | [] => if mark.isEmpty then some n else none
    | c :: r => if mark.isPrefixOf (c :: r) then some n else go (n + 1) r

def stripStart? (mark cs : List Char) : Option (List Char) :=
  if mark.isPrefixOf cs then some (cs.drop mark.length) else none

def stripEnd? (mark cs : List Char) : Option (List Char) :=
  if mark.isSuffixOf cs then some (cs.take (cs.length - mark.length)) else none

def trimEnd (p : Char → Bool) (cs : List Char) : List Char :=
  (cs.reverse.dropWhile p).reverse

end QueryScan.Text
