import QueryScan.Scan.Step
import QueryScan.Text.Digits
import QueryScan.Text.Find
import QueryScan.Unicode.CharClass

/-! Numbers, and the dots that share their first character. A mantissa is digits, digits with a dot
among or behind them, or a dot and digits; an exponent mark behind it must be followed by digits. -/
namespace QueryScan.Scan

open Unicode (isDigit)
open Text (run signLength)

/-- The text starts with a digit, or with a dot and a digit. -/
def startsNumber : List Char → Bool
  | '.' :: c :: _ => isDigit c
  | c :: _ => isDigit c
  | [] => false

/-- Length of the mantissa, and whether it holds a dot. -/
def mantissa (input : List Char) : Nat × Bool :=
  match input with
  | '.' :: r => (1 + run isDigit r, true)
  | _ =>
    let whole := run isDigit input
    match input.drop whole with
    | '.' :: r => (whole + 1 + run isDigit r, true)
    | _ => (whole, false)

def isExponentMark (c : Char) : Bool :=
  c == 'e' || c == 'E'

/-- The rest of a number behind `read` characters, the last of them an exponent mark. -/
def exponentRest (read : Nat) (input : List Char) : Step :=
  let sign := signLength input
  let digits := run isDigit (input.drop sign)
  if digits = 0 then .fault (.malformedNumber (read + sign))
  else .token .double (read + sign + digits)

/-- The rest of a number behind a mantissa of `length` characters. -/
def numberRest (length : Nat) (dotted : Bool) (input : List Char) : Step :=
  match input with
  | c :: r =>
    if isExponentMark c then exponentRest (length + 1) r
    else .token (if dotted then .decimal else .integer) length
  | [] => .token (if dotted then .decimal else .integer) length

def number (input : List Char) : Step :=
  let m := mantissa input
  numberRest m.1 m.2 (input.drop m.1)

def numberRule : Rule := fun m input =>
  if !m.inContent && startsNumber input then some (number input) else none

def dots : List (List Char × Symbol) :=
  [(['.', '.'], .doubleDot), (['.'], .dot)]

def dotRule : Rule := fun m input =>
  if m.inContent then none else symbolAmong dots input

end QueryScan.Scan
