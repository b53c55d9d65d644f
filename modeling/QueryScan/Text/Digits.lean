/-! Digits and numerals. Only ASCII digits are known here. -/
namespace QueryScan.Text

def isHexDigit (c : Char) : Bool :=
  c.isDigit || ('a' ≤ c && c ≤ 'f') || ('A' ≤ c && c ≤ 'F')

def digitValue (c : Char) : Nat :=
  if c.isDigit then c.toNat - '0'.toNat else c.toLower.toNat - 'a'.toNat + 10

/-- The number that the digits stand for, the greatest place first. -/
def valueOf (base : Nat) (digits : List Char) : Nat :=
  digits.foldl (fun n c => n * base + digitValue c) 0

/-- The number that the digits stand for, if it is below `cap`. A number that has reached `cap`
takes no further digit: it stays at least `cap`, and long numerals cost no more than short ones. -/
def valueUpTo (cap base : Nat) (digits : List Char) : Nat :=
  digits.foldl (fun n c => if n < cap then n * base + digitValue c else n) 0

def signLength : List Char → Nat
  | '+' :: _ => 1
  | '-' :: _ => 1
  | _ => 0

end QueryScan.Text
