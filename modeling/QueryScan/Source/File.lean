import QueryScan.Source.Place
import QueryScan.Text.Find
import QueryScan.Text.Quoted

/-! Named texts with an index of their lines. The index holds byte offsets; a line is cut out of the
text when it is asked for. -/
namespace QueryScan

/-- Byte offset of the first character of every line. -/
def lineStarts (content : List Char) : Array Nat :=
  (content.foldl
    (fun (starts, offset) c =>
      let next := offset + c.utf8Size
      (if c = '\n' then starts.push next else starts, next))
    (#[0], 0)).1

structure SourceFile where
  name : String
  content : String
  starts : Array Nat

namespace SourceFile

def ofText (name content : String) : SourceFile :=
  ⟨name, content, lineStarts content.toList⟩

/-- A line feed at the end starts one more, empty line. -/
def lineCount (f : SourceFile) : Nat :=
  f.starts.size

def isLineEnd (c : Char) : Bool :=
  c == '\n' || c == '\r'

/-- The `n`-th line, counted from one, without the characters that end it. -/
def line? (f : SourceFile) (n : Nat) : Option String := do
  if n = 0 then none
  let start ← f.starts[n - 1]?
  let stop := f.starts[n]?.getD (Text.byteLength f.content.toList)
  let line ← Text.slice? f.content.toList start stop
  return String.ofList (Text.trimEnd isLineEnd line)

def summary (f : SourceFile) : String :=
  "SourceFile \x7b name: " ++ Text.quoted f.name ++ ", line_count: " ++ f.lineCount.repr ++ " \x7d"

end SourceFile

end QueryScan
