import QueryScan.Source.File

/-! One line of a source with some of its columns underlined. -/
namespace QueryScan

/-- A line, its number, and the columns from `startColumn` up to, not including, `endColumn`. -/
structure Snippet where
  line : String
  lineNumber : Nat
  startColumn : Nat
  endColumn : Nat
deriving DecidableEq, Repr

namespace Snippet

def firstLine (cs : List Char) : List Char :=
  let line := cs.takeWhile (· != '\n')
  if line.length < cs.length then (Text.stripEnd? ['\r'] line).getD line else line

/-- The line where a span starts; a span of several lines is underlined to the end of the first. A
span whose text cannot be cut out has no width. -/
def ofSpan? (file : SourceFile) (span : Span) : Option Snippet := do
  let line ← file.line? span.line.toNat
  let column := max span.column.toNat 1
  let width := (span.text? file.content).elim 0 fun text => (firstLine text.toList).length
  return ⟨line, span.line.toNat, column, column + width⟩

def gutter (s : Snippet) : Nat :=
  max 3 s.lineNumber.repr.length

/-- Blanks under the characters before the underline. A tab stays a tab, so that columns agree. -/
def padding (s : Snippet) : List Char :=
  (s.line.toList.take (s.startColumn - 1)).map fun c => if c = '\t' then '\t' else ' '

def underline (s : Snippet) : List Char :=
  List.replicate (max 1 (s.endColumn - s.startColumn)) '^'

def render (s : Snippet) : String :=
  let number := s.lineNumber.repr
  String.ofList (List.replicate (s.gutter - number.length) ' ') ++ number ++ " | " ++ s.line ++
    "\n" ++ String.ofList (List.replicate s.gutter ' ') ++ " | " ++
    String.ofList (s.padding ++ s.underline)

end Snippet

end QueryScan
