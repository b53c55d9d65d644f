import QueryScan.Mode
import QueryScan.Toml.Document

/-! Settings and their form in a TOML document. Keys that are not known are passed over; a known key
with a value of another type is an error. -/
namespace QueryScan

structure Settings where
  /-- Blanks are tokens from the start. -/
  blanks : Bool := false
  /-- Quotes open string literals from the start. -/
  strings : Bool := true
  /-- Scanning starts between tags. -/
  startInElement : Bool := false
  /-- The name of a listing format. It is looked up only when a listing is made. -/
  format : String := "text"
  /-- Listings show blanks. -/
  showBlanks : Bool := false
  /-- How many files are checked at a time; none leaves it to the machine. -/
  jobs : Option Nat := none
deriving DecidableEq, Repr

namespace Settings

def mode (s : Settings) : Mode :=
  (({} : Mode).change (.blanks s.blanks)).change (.strings s.strings)
    |>.change (.element s.startInElement)

open Toml (Item Entries)

/-- The entries of a section with these keys: those of a table, or the items of an array in the
order of the keys. A date-time counts as a table without known keys. -/
def section? (keys : List String) : Item → Option Entries
  | .table _ entries => some entries
  | .inline entries => some entries
  | .array items => some (keys.zip items)
  | .tables elements => some (keys.zip (elements.map (Item.table .header)))
  | .dateTime => some []
  | _ => none

/-- A section that is left out has no entries. -/
def sectionOf? (entries : Entries) (name : String) (keys : List String) : Option Entries :=
  match entries.lookup name with
  | some item => section? keys item
  | none => some []

def boolean? (entries : Entries) (key : String) (default : Bool) : Option Bool :=
  match entries.lookup key with
  | some (.boolean on) => some on
  | some _ => none
  | none => some default

def string? (entries : Entries) (key : String) (default : String) : Option String :=
  match entries.lookup key with
  | some (.string text) => some text
  | some _ => none
  | none => some default

/-- A number that is not negative, or none when it is left out. -/
def count? (entries : Entries) (key : String) : Option (Option Nat) :=
  match entries.lookup key with
  | some (.integer n) => if 0 ≤ n then some (some n.toNat) else none
  | some _ => none
  | none => some none

def ofDocument? (document : Entries) : Option Settings := do
  let scanning ← sectionOf? document "lexer"
    ["ws_explicit", "parse_string_literals", "start_in_element_content"]
  let output ← sectionOf? document "output" ["format", "show_trivia"]
  let check ← sectionOf? document "check" ["jobs"]
  return {
    blanks := ← boolean? scanning "ws_explicit" false
    strings := ← boolean? scanning "parse_string_literals" true
    startInElement := ← boolean? scanning "start_in_element_content" false
    format := ← string? output "format" "text"
    showBlanks := ← boolean? output "show_trivia" false
    jobs := ← count? check "jobs" }

def ofText? (text : String) : Option Settings :=
  Toml.document? text >>= ofDocument?

end Settings

end QueryScan
