import QueryScan.Unicode.DefaultIgnorable
import QueryScan.Unicode.GraphemeExtend
import QueryScan.Unicode.Unprintable

/-! Quoted text on one line. Between quotes every character keeps a visible shape: a few have a
letter, the quote and the backslash take a backslash, and what would not show, or would merge with
its neighbour, is written by its code point. -/
namespace QueryScan.Text

/-- One of the two halfwidth sound marks. They extend the grapheme before them, but are letters
with a cell of their own. -/
def isHalfwidthSoundMark (c : Char) : Bool :=
  c == '\uFF9E' || c == '\uFF9F'

/-- The character would merge with the one before it. -/
def isMerging (c : Char) : Bool :=
  !isHalfwidthSoundMark c && Unicode.inTable Unicode.graphemeExtendTable c.toNat

/-- The character has no visible shape of its own. -/
def isHidden (c : Char) : Bool :=
  isMerging c || Unicode.inTable Unicode.defaultIgnorableTable c.toNat ||
    Unicode.inTable Unicode.unprintableTable c.toNat

def hexDigits (n : Nat) : List Char :=
  Nat.toDigits 16 n

def escape (q c : Char) : List Char :=
  if c = '\x00' then ['\\', '0']
  else if c = '\t' then ['\\', 't']
  else if c = '\r' then ['\\', 'r']
  else if c = '\n' then ['\\', 'n']
  else if c = '\\' ∨ c = q then ['\\', c]
  else if c.toNat < 127 ∧ 32 ≤ c.toNat then [c]
  else if isHidden c then '\\' :: 'u' :: '{' :: hexDigits c.toNat ++ ['}']
  else [c]

def quote (q : Char) (cs : List Char) : List Char :=
  q :: cs.flatMap (escape q) ++ [q]

def quoted (s : String) : String :=
  String.ofList (quote '"' s.toList)

def quotedChar (c : Char) : String :=
  String.ofList (quote '\'' [c])

end QueryScan.Text
