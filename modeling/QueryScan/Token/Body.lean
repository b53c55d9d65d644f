import QueryScan.Text.Find
import QueryScan.Token.Basic
import QueryScan.Unicode.CharClass

/-! What a comment, a CDATA section, a processing instruction or a pragma holds. -/
namespace QueryScan

namespace Token

/-- The target of a processing instruction: all up to a blank or a question mark. -/
def targetChars? (t : Token) : Option (List Char) :=
  match t.kind with
  | .instruction =>
    (Text.stripStart? ['<', '?'] t.text.toList).map
      (List.takeWhile fun c => !(Unicode.isBlank c || c == '?'))
  | _ => none

/-- The text between the fixed delimiters. For a processing instruction it starts behind the target
and its blanks, for the end of a pragma behind the blanks. -/
def bodyChars? (t : Token) : Option (List Char) :=
  let text := t.text.toList
  match t.kind with
  | .comment => do
    Text.stripEnd? ['-', '-', '>'] (← Text.stripStart? ['<', '!', '-', '-'] text)
  | .cdata => do
    Text.stripEnd? [']', ']', '>']
      (← Text.stripStart? ['<', '!', '[', 'C', 'D', 'A', 'T', 'A', '['] text)
  | .instruction => do
    let target ← t.targetChars?
    let rest ← Text.stripStart? target (← Text.stripStart? ['<', '?'] text)
    return (← Text.stripEnd? ['?', '>'] rest).dropWhile Unicode.isBlank
  | .pragmaEnd => do
    return (← Text.stripEnd? ['#', ')'] text).dropWhile Unicode.isBlank
  | _ => none

def target? (t : Token) : Option String :=
  t.targetChars?.map String.ofList

def body? (t : Token) : Option String :=
  t.bodyChars?.map String.ofList

end Token

end QueryScan
