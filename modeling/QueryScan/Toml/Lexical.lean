import QueryScan.Text.Digits
import QueryScan.Text.Find

/-! Blanks, comments, strings, keys, numbers and date-times of TOML. A reader gives what it read and
the rest of the text, and none when the text is not well formed. -/
namespace QueryScan.Toml

open Text (run isHexDigit valueOf valueUpTo signLength)

def isSpace (c : Char) : Bool :=
  c == ' ' || c == '\t'

/-- A tab, or any character that is no control. -/
def isPrintable (c : Char) : Bool :=
  c == '\t' || (' ' ≤ c && c != '\x7f')

def skipSpaces (cs : List Char) : List Char :=
  cs.dropWhile isSpace

/-- What follows a line break: a line feed, with or without a carriage return before it. -/
def newline? : List Char → Option (List Char)
  | '\n' :: r => some r
  | '\r' :: '\n' :: r => some r
  | _ => none

def skipComment : List Char → List Char
  | '#' :: r => r.dropWhile isPrintable
  | cs => cs

/-- What follows the end of a line: blanks, a comment, a line break or the end of the text. -/
def lineEnd? (cs : List Char) : Option (List Char) :=
  match skipComment (skipSpaces cs) with
  | [] => some []
  | r => newline? r

def blankLength : List Char → Nat
  | ' ' :: r => blankLength r + 1
  | '\t' :: r => blankLength r + 1
  | '\n' :: r => blankLength r + 1
  | '\r' :: '\n' :: r => blankLength r + 2
  | _ => 0

/-! ## Strings -/

/-- The character with the code point of the next `n` hexadecimal digits, and `n`. -/
def codePoint? (n : Nat) (cs : List Char) : Option (Char × Nat) :=
  let digits := cs.take n
  let code := valueOf 16 digits
  if digits.length = n ∧ digits.all isHexDigit ∧ code.isValidChar then some (Char.ofNat code, n)
  else none

/-- The character of an escape behind its backslash, and the length of the escape. -/
def escape? : List Char → Option (Char × Nat)
  | 'b' :: _ => some ('\x08', 1)
  | 't' :: _ => some ('\t', 1)
  | 'n' :: _ => some ('\n', 1)
  | 'f' :: _ => some ('\x0c', 1)
  | 'r' :: _ => some ('\r', 1)
  | '"' :: _ => some ('"', 1)
  | '\\' :: _ => some ('\\', 1)
  | 'u' :: r => (codePoint? 4 r).map fun (c, n) => (c, n + 1)
  | 'U' :: r => (codePoint? 8 r).map fun (c, n) => (c, n + 1)
  | _ => none

/-- Length of a line break that a backslash takes out, with all blanks around it. -/
def continuation? (cs : List Char) : Option Nat :=
  let spaces := run isSpace cs
  match newline? (cs.drop spaces) with
  | some _ => some (blankLength cs)
  | none => none

/-- The rest of a string in double quotes; `read` holds its characters, the latest first. -/
def basicRest (read : List Char) (cs : List Char) : Option (String × List Char) :=
  match cs with
  | [] => none
  | '"' :: r => some (String.ofList read.reverse, r)
  | '\\' :: r =>
    match escape? r with
    | some (c, n) => basicRest (c :: read) (r.drop n)
    | none => none
  | c :: r => if isPrintable c then basicRest (c :: read) r else none
termination_by cs.length

def literalRest (cs : List Char) : Option (String × List Char) :=
  let length := run (fun c => isPrintable c && c != '\'') cs
  match cs.drop length with
  | '\'' :: r => some (String.ofList (cs.take length), r)
  | _ => none

/-- Of a run of closing quotes, the number that still belongs to the string: two at most. -/
def spareQuotes (quotes : Nat) : Nat :=
  min (quotes - 3) 2

def multiBasicRest (read : List Char) (cs : List Char) : Option (String × List Char) :=
  match cs with
  | [] => none
  | '"' :: r =>
    let quotes := run (· == '"') cs
    if quotes < 3 then multiBasicRest ('"' :: read) r
    else
      let spare := spareQuotes quotes
      some (String.ofList (read.reverse ++ List.replicate spare '"'), cs.drop (spare + 3))
  | '\\' :: r =>
    match escape? r with
    | some (c, n) => multiBasicRest (c :: read) (r.drop n)
    | none =>
      match continuation? r with
      | some n => multiBasicRest read (r.drop n)
      | none => none
  | '\n' :: r => multiBasicRest ('\n' :: read) r
  | '\r' :: '\n' :: r => multiBasicRest ('\n' :: read) r
  | c :: r => if isPrintable c then multiBasicRest (c :: read) r else none
termination_by cs.length

def multiLiteralRest (read : List Char) (cs : List Char) : Option (String × List Char) :=
  match cs with
  | [] => none
  | '\'' :: r =>
    let quotes := run (· == '\'') cs
    if quotes < 3 then multiLiteralRest ('\'' :: read) r
    else
      let spare := spareQuotes quotes
      some (String.ofList (read.reverse ++ List.replicate spare '\''), cs.drop (spare + 3))
  | '\n' :: r => multiLiteralRest ('\n' :: read) r
  | '\r' :: '\n' :: r => multiLiteralRest ('\n' :: read) r
  | c :: r => if isPrintable c then multiLiteralRest (c :: read) r else none
termination_by cs.length

/-- A string of any of the four forms. A line break right behind three quotes is not part of it. -/
def string? : List Char → Option (String × List Char)
  | '"' :: '"' :: '"' :: r => multiBasicRest [] ((newline? r).getD r)
  | '"' :: r => basicRest [] r
  | '\'' :: '\'' :: '\'' :: r => multiLiteralRest [] ((newline? r).getD r)
  | '\'' :: r => literalRest r
  | _ => none

/-! ## Keys -/

def isBareKeyChar (c : Char) : Bool :=
  c.isAlphanum || c == '-' || c == '_'

def simpleKey? : List Char → Option (String × List Char)
  | '"' :: r => basicRest [] r
  | '\'' :: r => literalRest r
  | cs =>
    let length := run isBareKeyChar cs
    if length = 0 then none else some (String.ofList (cs.take length), cs.drop length)

/-- A dotted key of `budget` parts at most, with blanks around each part. -/
def key? (budget : Nat) (cs : List Char) : Option (List String × List Char) :=
  match budget with
  | 0 => none
  | budget + 1 => do
    let (part, r) ← simpleKey? (skipSpaces cs)
    match skipSpaces r with
    | '.' :: s => do
      let (parts, t) ← key? budget s
      return (part :: parts, t)
    | s => return ([part], s)

/-! ## Numbers -/

/-- Length of digits of the class `p` behind a digit, with single underscores between them. -/
def moreDigits (p : Char → Bool) : List Char → Nat
  | '_' :: c :: r => if p c then moreDigits p r + 2 else 0
  | c :: r => if p c then moreDigits p r + 1 else 0
  | [] => 0

def digits? (p : Char → Bool) : List Char → Option Nat
  | c :: r => if p c then some (moreDigits p r + 1) else none
  | [] => none

/-- Length of a decimal integer without its sign. A zero has no digits behind it. -/
def unsigned? : List Char → Option Nat
  | '0' :: _ => some 1
  | cs => digits? Char.isDigit cs

def withoutUnderscores (cs : List Char) : List Char :=
  cs.filter (· != '_')

def bounded? (n : Int) : Option Int :=
  if -0x8000000000000000 ≤ n ∧ n < 0x8000000000000000 then some n else none

/-- The size of an integer from its digits, exact up to 64 bits. -/
def integerSize (base : Nat) (digits : List Char) : Nat :=
  valueUpTo 0x10000000000000000 base (withoutUnderscores digits)

def based? (base : Nat) (p : Char → Bool) (cs : List Char) : Option (Int × List Char) := do
  let length ← digits? p cs
  let n ← bounded? (integerSize base (cs.take length))
  return (n, cs.drop length)

def integer? : List Char → Option (Int × List Char)
  | '0' :: 'x' :: r => based? 16 isHexDigit r
  | '0' :: 'o' :: r => based? 8 (fun c => '0' ≤ c && c ≤ '7') r
  | '0' :: 'b' :: r => based? 2 (fun c => c == '0' || c == '1') r
  | cs => do
    let sign := signLength cs
    let r := cs.drop sign
    let length ← unsigned? r
    let size : Int := integerSize 10 (r.take length)
    let n ← bounded? (if cs.head? = some '-' then -size else size)
    return (n, r.drop length)

/-- The number `digits · 10 ^ scale` is beyond the greatest float of 64 bits. The limit is a whole
number of 309 places, so the whole part decides, and mostly the number of its places. -/
def isTooLarge (digits : List Char) (scale : Int) : Bool :=
  let significant := digits.dropWhile (· == '0')
  let places : Int := significant.length + scale
  if significant = [] ∨ places < 309 then false
  else if 309 < places then true
  else
    let whole := valueOf 10 (significant.take 309) * Nat.pow 10 scale.toNat
    Nat.pow 2 1024 - Nat.pow 2 970 ≤ whole

/-- Length and value of an exponent: a mark, an optional sign and digits. A size that has reached
65536 takes no further digit. -/
def exponent? : List Char → Option (Nat × Int)
  | c :: r =>
    if c == 'e' || c == 'E' then do
      let sign := signLength r
      let digits := r.drop sign
      let length ← digits? Char.isDigit digits
      let size : Int := valueUpTo 65536 10 (withoutUnderscores (digits.take length))
      return (1 + sign + length, if r.head? = some '-' then -size else size)
    else none
  | [] => none

/-- What follows a float: an integer with a fraction, an exponent or both, or a signed name. A
positive one must not be too large. -/
def float? (cs : List Char) : Option (List Char) :=
  let r := cs.drop (signLength cs)
  let negative := cs.head? = some '-'
  match r with
  | 'i' :: 'n' :: 'f' :: s => some s
  | 'n' :: 'a' :: 'n' :: s => some s
  | _ => do
    let whole ← unsigned? r
    let behind := r.drop whole
    let fraction : Nat ← match behind with
      | '.' :: f => (digits? Char.isDigit f).map (· + 1)
      | _ => some 0
    let (length, power) ← match exponent? (behind.drop fraction) with
      | some e => some e
      | none => if fraction = 0 then none else some (0, 0)
    let places := withoutUnderscores ((behind.take fraction).drop 1)
    let digits := withoutUnderscores (r.take whole) ++ places
    if !negative && isTooLarge digits (power - places.length) then none
    else some (behind.drop (fraction + length))

/-! ## Date-times -/

def fixed? (n : Nat) (cs : List Char) : Option (Nat × List Char) :=
  let digits := cs.take n
  if digits.length = n ∧ digits.all Char.isDigit then some (valueOf 10 digits, cs.drop n)
  else none

def expect? (c : Char) : List Char → Option (List Char)
  | d :: r => if d = c then some r else none
  | [] => none

def daysIn (year month : Nat) : Nat :=
  if month = 2 then
    if year % 4 = 0 ∧ (year % 100 ≠ 0 ∨ year % 400 = 0) then 29 else 28
  else if month = 4 ∨ month = 6 ∨ month = 9 ∨ month = 11 then 30
  else 31

def date? (cs : List Char) : Option (List Char) := do
  let (year, r) ← fixed? 4 cs
  let (month, r) ← fixed? 2 (← expect? '-' r)
  let (day, r) ← fixed? 2 (← expect? '-' r)
  if 1 ≤ month ∧ month ≤ 12 ∧ 1 ≤ day ∧ day ≤ daysIn year month then some r else none

def hourMinute? (cs : List Char) : Option (List Char) := do
  let (hour, r) ← fixed? 2 cs
  let (minute, r) ← fixed? 2 (← expect? ':' r)
  if hour ≤ 23 ∧ minute ≤ 59 then some r else none

/-- What follows a time of day; a minute may have a leap second. -/
def time? (cs : List Char) : Option (List Char) := do
  let (second, r) ← fixed? 2 (← expect? ':' (← hourMinute? cs))
  if 60 < second then none
  match r with
  | '.' :: s =>
    let places := run Char.isDigit s
    if places = 0 then return r else return s.drop places
  | _ => return r

def skipOffset? : List Char → Option (List Char)
  | 'Z' :: r => some r
  | 'z' :: r => some r
  | '+' :: r => hourMinute? r
  | '-' :: r => hourMinute? r
  | cs => some cs

def dateTime? (cs : List Char) : Option (List Char) :=
  match date? cs with
  | some r =>
    match r with
    | c :: s =>
      if c == 'T' || c == 't' || c == ' ' then
        match time? s with
        | some t => skipOffset? t
        | none => some r
      else some r
    | [] => some r
  | none => time? cs

end QueryScan.Toml
