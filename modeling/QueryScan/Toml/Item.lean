/-! Tables of a TOML document while it is read. A table remembers how it came to be, since that
decides who may add to it. -/
namespace QueryScan.Toml

/-- A table has a header of its own, stands in the path of another header, or comes from a dotted
key. -/
inductive Origin where
  | header
  | implied
  | dotted
deriving DecidableEq, Repr

/-- A value or a table. Floats and date-times are known by their kind only. -/
inductive Item where
  | boolean (on : Bool)
  | integer (value : Int)
  | float
  | dateTime
  | string (text : String)
  | array (items : List Item)
  | inline (entries : List (String × Item))
  | table (origin : Origin) (entries : List (String × Item))
  | tables (elements : List (List (String × Item)))

abbrev Entries := List (String × Item)

namespace Entries

def replace (key : String) (item : Item) : Entries → Entries
  | [] => []
  | (k, v) :: rest => if k = key then (k, item) :: rest else (k, v) :: replace key item rest

/-- Changes the table at the end of a path, and makes the tables that are missing on the way. In an
array of tables the path goes through the last one. A dotted path makes dotted tables and does not
enter one with a header of its own; no path enters a value. -/
def modifyAt (dotted : Bool) (f : Origin → Entries → Option Entries) :
    List String → Origin → Entries → Option Entries
  | [], origin, es => f origin es
  | key :: path, _, es =>
    match es.lookup key with
    | none => do
      let origin : Origin := if dotted then .dotted else .implied
      return es ++ [(key, .table origin (← modifyAt dotted f path origin []))]
    | some (.table origin sub) =>
      if dotted && origin == .header then none
      else do return es.replace key (.table origin (← modifyAt dotted f path origin sub))
    | some (.tables elements) => do
      let last ← elements.getLast?
      let changed ← modifyAt dotted f path .header last
      return es.replace key (.tables (elements.dropLast ++ [changed]))
    | some _ => none

/-- Adds a value under a dotted key. The key must be new, and a table that it extends must itself
come from dotted keys. -/
def insert (path : List String) (key : String) (item : Item) (es : Entries) : Option Entries :=
  modifyAt true
    (fun origin sub =>
      if (origin == .dotted) == path.isEmpty then none
      else if (sub.lookup key).isSome then none
      else some (sub ++ [(key, item)]))
    path .header es

def openTable (path : List String) (key : String) (es : Entries) : Option Entries :=
  modifyAt false
    (fun _ sub =>
      match sub.lookup key with
      | none => some (sub ++ [(key, .table .header [])])
      | some (.table .implied entries) => some (sub.replace key (.table .header entries))
      | some _ => none)
    path .header es

def openElement (path : List String) (key : String) (es : Entries) : Option Entries :=
  modifyAt false
    (fun _ sub =>
      match sub.lookup key with
      | none => some (sub ++ [(key, .tables [[]])])
      | some (.tables elements) => some (sub.replace key (.tables (elements ++ [[]])))
      | some _ => none)
    path .header es

end Entries

end QueryScan.Toml
