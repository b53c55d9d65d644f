import QueryScan.Scan.Step
import QueryScan.Text.Find
import QueryScan.Unicode.CharClass

/-! Comments of the query language, pragmas and blanks. -/
namespace QueryScan.Scan

open Unicode (isBlank)
open Text (run)

/-- Length of a comment whose opening mark is behind `read` characters, with `depth` further
comments open around the point. The opening mark is looked for before the closing one. -/
def commentRest (depth read : Nat) : List Char → Option Nat
  | '(' :: ':' :: r => commentRest (depth + 1) (read + 2) r
  | ':' :: ')' :: r =>
    match depth with
    | 0 => some (read + 2)
    | d + 1 => commentRest d (read + 2) r
  | _ :: r => commentRest depth (read + 1) r
  | [] => none

def commentRule : Rule := fun m input =>
  match input with
  | '(' :: ':' :: r =>
    if m.inContent then none
    else some <|
      match commentRest 0 2 r with
      | some n => .skip n
      | none => .fault (.unterminated .comment)
  | _ => none

def pragmaStartRule : Rule := fun m input =>
  match input with
  | '(' :: '#' :: r => if m.inContent then none else some (.token .pragmaStart (2 + run isBlank r))
  | _ => none

/-- The end of a pragma: its closing mark, or a blank and all up to the first closing mark. -/
def pragmaEnd (input : List Char) : Step :=
  match input with
  | '#' :: ')' :: _ => .token .pragmaEnd 2
  | '#' :: _ => .fault (.noViable 0 '#')
  | _ =>
    match Text.find? ['#', ')'] input with
    | some n => .token .pragmaEnd (n + 2)
    | none => .fault (.unterminated .pragma)

def pragmaEndRule : Rule := fun m input =>
  match input with
  | c :: _ => if m.pragma && (isBlank c || c == '#') then some (pragmaEnd input) else none
  | [] => none

def blankRule : Rule := fun m input =>
  match input with
  | c :: _ =>
    if !m.pragma && isBlank c then
      let n := run isBlank input
      some (if m.blanks then .token .blank n else .skip n)
    else none
  | [] => none

end QueryScan.Scan
