import QueryScan.Toml.Item
import QueryScan.Toml.Lexical

/-! TOML documents. The reader refuses what is not well formed, and a key or a table that is given
twice; it does not say why. -/
namespace QueryScan.Toml

/-- Values nest less than this deep, and keys have fewer parts. -/
def nestingLimit : Nat :=
  80

/-- Blanks, line breaks and comments between the items of an array. -/
def skipFiller (cs : List Char) : List Char :=
  match cs.drop (blankLength cs) with
  | '#' :: r =>
    let behind := r.dropWhile isPrintable
    if behind.length < cs.length then skipFiller behind else behind
  | r => r
termination_by cs.length

def splitKey? (parts : List String) : Option (List String × String) :=
  parts.getLast?.map fun last => (parts.dropLast, last)

def scalar? (cs : List Char) : Option (Item × List Char) :=
  match cs with
  | 't' :: 'r' :: 'u' :: 'e' :: r => some (.boolean true, r)
  | 'f' :: 'a' :: 'l' :: 's' :: 'e' :: r => some (.boolean false, r)
  | '"' :: _ | '\'' :: _ => (string? cs).map fun (s, r) => (.string s, r)
  | _ =>
    match dateTime? cs, float? cs with
    | some r, _ => some (.dateTime, r)
    | none, some r => some (.float, r)
    | none, none => (integer? cs).map fun (n, r) => (.integer n, r)

mutual

/-- A value in which arrays and inline tables nest `budget` deep at most. -/
def value? (budget : Nat) (cs : List Char) : Option (Item × List Char) :=
  match cs, budget with
  | '[' :: _, 0 => none
  | '[' :: r, budget + 1 => (items? budget r).map fun (items, s) => (.array items, s)
  | '{' :: _, 0 => none
  | '{' :: r, budget + 1 =>
    match skipSpaces r with
    | '}' :: s => some (.inline [], s)
    | _ => (fields? budget [] r).map fun (entries, s) => (.inline entries, s)
  | _, _ => scalar? cs
termination_by (budget, 0, 0)

def items? (budget : Nat) (cs : List Char) : Option (List Item × List Char) :=
  match skipFiller cs with
  | ']' :: r => some ([], r)
  | start => do
    let (item, r) ← value? budget start
    match skipFiller r with
    | ']' :: s => return ([item], s)
    | ',' :: s =>
      if s.length < cs.length then do
        let (items, t) ← items? budget s
        return (item :: items, t)
      else none
    | _ => none
termination_by (budget, 1, cs.length)

def fields? (budget : Nat) (entries : Entries) (cs : List Char) :
    Option (Entries × List Char) := do
  let (parts, r) ← key? (nestingLimit - 1) cs
  let (path, key) ← splitKey? parts
  let (item, r) ← value? budget (skipSpaces (← expect? '=' r))
  let entries ← entries.insert path key item
  match skipSpaces r with
  | '}' :: s => return (entries, s)
  | ',' :: s => if s.length < cs.length then fields? budget entries s else none
  | _ => none
termination_by (budget, 1, cs.length)

end

def keyValue? (root : Entries) (here : List String) (cs : List Char) :
    Option (Entries × List Char) := do
  let (parts, r) ← key? (nestingLimit - 1) cs
  let (path, key) ← splitKey? parts
  let (item, r) ← value? (nestingLimit - 1) (skipSpaces (← expect? '=' r))
  let rest ← lineEnd? r
  let root ← root.modifyAt false (fun _ es => es.insert path key item) here .header
  return (root, rest)

def header? (element : Bool) (root : Entries) (cs : List Char) :
    Option (Entries × List String × List Char) := do
  let (parts, r) ← key? (nestingLimit - 1) cs
  let (path, key) ← splitKey? parts
  let r ← expect? ']' r
  let r ← if element then expect? ']' r else some r
  let rest ← lineEnd? r
  let root ← if element then root.openElement path key else root.openTable path key
  return (root, parts, rest)

/-- The rest of a document, with the tables so far and the path of the table at hand. -/
def expressions? (root : Entries) (here : List String) (cs : List Char) : Option Entries :=
  match skipSpaces cs with
  | [] => some root
  | '[' :: '[' :: r =>
    match header? true root r with
    | some (root, here, s) => if s.length < cs.length then expressions? root here s else none
    | none => none
  | '[' :: r =>
    match header? false root r with
    | some (root, here, s) => if s.length < cs.length then expressions? root here s else none
    | none => none
  | start =>
    let blankLine := match start with
      | '#' :: _ | '\n' :: _ | '\r' :: _ => true
      | _ => false
    let read := if blankLine then (lineEnd? start).map fun s => (root, s)
      else keyValue? root here start
    match read with
    | some (root, s) => if s.length < cs.length then expressions? root here s else none
    | none => none
termination_by cs.length

/-- The tables of a document; a byte order mark before it is passed over. -/
def document? (text : String) : Option Entries :=
  match text.toList with
  | '\ufeff' :: r => expressions? [] [] r
  | cs => expressions? [] [] cs

end QueryScan.Toml
