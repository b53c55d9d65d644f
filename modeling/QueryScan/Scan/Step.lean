import QueryScan.Mode

/-! What one rule makes of the text ahead. Every number counts characters from the point where the
rule was tried, so a step knows nothing of what stands before it. -/
namespace QueryScan

inductive Construct where
  | comment
  | xmlComment
  | cdata
  | instruction
  | pragma
  | string
deriving DecidableEq, Repr

inductive Fault where
  /-- No rule accepts `found`, which stands `ahead` characters on. -/
  | noViable (ahead : Nat) (found : Char)
  /-- The text ends inside the construct. -/
  | unterminated (construct : Construct)
  /-- The first `length` characters are a number without the digits of its exponent. -/
  | malformedNumber (length : Nat)
  /-- The ampersand `ahead` characters on opens no reference; `length` characters look like one. -/
  | malformedReference (ahead length : Nat)
deriving DecidableEq, Repr

/-- How many of the characters ahead are read when the fault shows. -/
def Fault.reach (input : List Char) : Fault → Nat
  | .noViable ahead _ => ahead
  | .unterminated _ => input.length
  | .malformedNumber length => length
  | .malformedReference ahead _ => ahead

/-- A token of the next `length` characters, characters to pass over, or a fault. -/
inductive Step where
  | token (kind : Kind) (length : Nat)
  | skip (length : Nat)
  | fault (cause : Fault)
deriving DecidableEq, Repr

/-- A rule is tried on the text ahead, and gives none where it does not apply. -/
abbrev Rule := Mode → List Char → Option Step

namespace Scan

def symbolAmong (table : List (List Char × Symbol)) (input : List Char) : Option Step :=
  (table.find? fun entry => entry.1.isPrefixOf input).map fun entry =>
    .token (.symbol entry.2) entry.1.length

end Scan

end QueryScan
