import QueryScan.Text.Find
import QueryScan.Token.Basic

/-! The pieces of a string literal. References are told apart from text but not resolved. -/
namespace QueryScan

/-- A stretch of plain characters, a doubled delimiter, the name of a predefined entity, or a
character reference with its marks. -/
inductive Segment where
  | text (chars : List Char)
  | escaped (delimiter : Char)
  | entity (name : List Char)
  | charRef (verbatim : List Char)
deriving DecidableEq, Repr

namespace Segment

def flush (pending : List Char) : List Segment :=
  if pending.isEmpty then [] else [.text pending.reverse]

/-- Splits what stands between two delimiters `d`. A doubled delimiter comes first; an ampersand
opens a reference only when a semicolon follows somewhere. -/
def split (d : Char) (inner : List Char) : List Segment :=
  go [] inner
where
  /-- The segments of the rest, with plain characters held back in `pending`. -/
  go (pending : List Char) (cs : List Char) : List Segment :=
    match cs with
    | [] => flush pending
    | c :: r =>
      if c = d ∧ r.head? = some d then
        flush pending ++ .escaped d :: go [] (r.drop 1)
      else if c = '&' then
        match Text.find? [';'] r with
        | some n =>
          let piece :=
            if r.head? = some '#' then Segment.charRef ('&' :: r.take (n + 1))
            else .entity (r.take n)
          flush pending ++ piece :: go [] (r.drop (n + 1))
        | none => go (c :: pending) r
      else
        go (c :: pending) r
  termination_by cs.length

/-- What the segment stands for, references as they are. -/
def value : Segment → List Char
  | .text cs => cs
  | .escaped d => [d]
  | .entity n => '&' :: n ++ [';']
  | .charRef v => v

end Segment

namespace Token

def segments? (t : Token) : Option (List Segment) :=
  match t.kind, t.text.toList with
  | .string, d :: r => (Text.stripEnd? [d] r).map (Segment.split d)
  | _, _ => none

def content? (t : Token) : Option String :=
  t.segments?.map fun segments => String.ofList (segments.flatMap Segment.value)

end Token

end QueryScan
