/-! JSON values and their printed form: two spaces of indentation a level, one entry a line, nothing
between the brackets of an empty list or record. Only quotes, backslashes and the controls below
the space are escaped. -/
namespace QueryScan

inductive Json where
  | text (s : String)
  | number (n : Nat)
  | list (items : List Json)
  | record (fields : List (String × Json))

namespace Json

/-- A control character by its code, in four digits. -/
def controlCode (n : Nat) : List Char :=
  '\\' :: 'u' :: '0' :: '0' :: Nat.digitChar (n / 16) :: Nat.digitChar (n % 16) :: []

def escape (c : Char) : List Char :=
  if c = '"' ∨ c = '\\' then ['\\', c]
  else if c = '\x08' then ['\\', 'b']
  else if c = '\x0c' then ['\\', 'f']
  else if c = '\n' then ['\\', 'n']
  else if c = '\r' then ['\\', 'r']
  else if c = '\t' then ['\\', 't']
  else if c.toNat < 32 then controlCode c.toNat
  else [c]

def quote (s : String) : List Char :=
  '"' :: s.toList.flatMap escape ++ ['"']

def newline (depth : Nat) : List Char :=
  '\n' :: List.replicate (2 * depth) ' '

mutual

/-- The value as it stands at nesting `depth`. -/
def render (depth : Nat) : Json → List Char
  | .text s => quote s
  | .number n => Nat.toDigits 10 n
  | .list [] => ['[', ']']
  | .list (x :: xs) =>
      '[' :: newline (depth + 1) ++ render (depth + 1) x ++
        (renderItems (depth + 1) xs ++ newline depth ++ [']'])
  | .record [] => ['{', '}']
  | .record ((k, v) :: fs) =>
      '{' :: newline (depth + 1) ++ quote k ++ ':' :: ' ' :: render (depth + 1) v ++
        (renderFields (depth + 1) fs ++ newline depth ++ ['}'])

def renderItems (depth : Nat) : List Json → List Char
  | [] => []
  | x :: xs => ',' :: newline depth ++ render depth x ++ renderItems depth xs

def renderFields (depth : Nat) : List (String × Json) → List Char
  | [] => []
  | (k, v) :: fs =>
      ',' :: newline depth ++ quote k ++ ':' :: ' ' :: render depth v ++ renderFields depth fs

end

/-- The whole document, without a final line break. -/
def pretty (v : Json) : String :=
  String.ofList (v.render 0)

end Json

end QueryScan
