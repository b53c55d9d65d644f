import QueryScan.Text.Bytes

/-! Points and stretches of a text. Offsets count bytes, columns count characters, and only a line
feed starts a line: a carriage return is an ordinary character. -/
namespace QueryScan

/-- A point of the text: the bytes before it, and its line and column from one. Line and column are
counters of 32 bits, and go on from zero when they are full. -/
structure Place where
  offset : Nat := 0
  line : UInt32 := 1
  column : UInt32 := 1
deriving DecidableEq, Repr

def Place.step (p : Place) (c : Char) : Place :=
  if c = '\n' then ⟨p.offset + c.utf8Size, p.line + 1, 1⟩
  else ⟨p.offset + c.utf8Size, p.line, p.column + 1⟩

def Place.after (p : Place) (cs : List Char) : Place :=
  cs.foldl Place.step p

/-- The bytes from `start` up to `stop`, with the line and column of the first. -/
structure Span where
  start : Nat
  stop : Nat
  line : UInt32
  column : UInt32
deriving DecidableEq, Repr

def Span.unknown : Span :=
  ⟨0, 0, 0, 0⟩

def Place.upTo (p : Place) (stop : Nat) : Span :=
  ⟨p.offset, stop, p.line, p.column⟩

/-- The text under a span; none when it leaves `source` or cuts a character. -/
def Span.text? (s : Span) (source : String) : Option String :=
  (Text.slice? source.toList s.start s.stop).map String.ofList

end QueryScan
