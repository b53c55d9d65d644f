import QueryScan.Scan.Step
import QueryScan.Text.Digits
import QueryScan.Text.Find

/-! Entity and character references, and the string literals that may hold them. -/
namespace QueryScan.Scan

open Text (run isHexDigit)

/-- The names that need no declaration. None of them starts another. -/
def entityNames : List (List Char) :=
  [['l', 't'], ['g', 't'], ['a', 'm', 'p'], ['q', 'u', 'o', 't'], ['a', 'p', 'o', 's']]

def digitsAndSemicolon? (p : Char → Bool) (input : List Char) : Option Nat :=
  let digits := run p input
  if digits ≠ 0 ∧ (input.drop digits).head? = some ';' then some (digits + 1) else none

def nameAndSemicolon? (input : List Char) : Option Nat := do
  let name ← entityNames.find? fun n => n.isPrefixOf input
  if (input.drop name.length).head? = some ';' then some (name.length + 1) else none

def reference? : List Char → Option (Kind × Nat)
  | '&' :: '#' :: 'x' :: r => (digitsAndSemicolon? isHexDigit r).map fun n => (.charRef, 3 + n)
  | '&' :: '#' :: r => (digitsAndSemicolon? Char.isDigit r).map fun n => (.charRef, 2 + n)
  | '&' :: r => (nameAndSemicolon? r).map fun n => (.entityRef, 1 + n)
  | _ => none

/-- How far a text behind an ampersand looks like a reference, the ampersand included. -/
def referenceLook (behind : List Char) : Nat :=
  let body := run (fun c => c == '#' || c.isAlphanum) behind
  1 + body + (if (behind.drop body).head? = some ';' then 1 else 0)

def reference (input : List Char) : Step :=
  match reference? input with
  | some (kind, length) => .token kind length
  | none => .fault (.malformedReference 0 (referenceLook (input.drop 1)))

/-- The rest of a string literal with delimiter `d`, behind `read` characters of it. A doubled
delimiter and a valid reference belong to the string. -/
def stringRest (d : Char) (read : Nat) (input : List Char) : Step :=
  match input with
  | [] => .fault (.unterminated .string)
  | c :: r =>
    if c = d then
      match r with
      | e :: s => if e = d then stringRest d (read + 2) s else .token .string (read + 1)
      | [] => .token .string (read + 1)
    else if c = '&' then
      match reference? (c :: r) with
      | some (_, length) => stringRest d (read + length) (r.drop (length - 1))
      | none => .fault (.malformedReference read (referenceLook r))
    else
      stringRest d (read + 1) r
termination_by input.length

def stringRule : Rule := fun m input =>
  match input with
  | c :: r =>
    if (Delimiter.ofChar? c).isSome && m.strings && !m.inElement then some (stringRest c 1 r)
    else none
  | [] => none

end QueryScan.Scan
