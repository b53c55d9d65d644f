import QueryScan.Source.Place
import QueryScan.Text.Quoted
import QueryScan.Token.Kind

/-! Tokens. A token keeps the exact text it was read from, delimiters and escapes included. -/
namespace QueryScan

structure Token where
  kind : Kind
  text : String
  span : Span
deriving DecidableEq, Repr

namespace Token

def line (t : Token) : UInt32 :=
  t.span.line

def column (t : Token) : UInt32 :=
  t.span.column

def isEof (t : Token) : Bool :=
  t.kind == .eof

/-- Place, kind and quoted text, on one line whatever the text holds. -/
def render (t : Token) : String :=
  t.line.toNat.repr ++ ":" ++ t.column.toNat.repr ++ " " ++ t.kind.render ++ " " ++
    Text.quoted t.text

end Token

end QueryScan
