import QueryScan.Text.Json
import QueryScan.Token.Basic

/-! Listings of tokens, for a reader or as data, with counts of their kinds if asked for. -/
namespace QueryScan.Listing

inductive Format where
  | text
  | json
deriving DecidableEq, Repr

/-- The format of this name, in upper or lower case. -/
def Format.ofName? (name : String) : Option Format :=
  match name.toLower with
  | "text" | "txt" => some .text
  | "json" => some .json
  | _ => none

/-- Counts one more of the label; a new label comes last. -/
def bump (label : String) : List (String × Nat) → List (String × Nat)
  | [] => [(label, 1)]
  | (l, n) :: rest => if l = label then (l, n + 1) :: rest else (l, n) :: bump label rest

/-- How many tokens each label has, in the order in which the labels first occur. -/
def countKinds (tokens : List Token) : List (String × Nat) :=
  tokens.foldl (fun counts t => bump t.kind.label counts) []

/-- The fields of a token; only a keyword has a word of its own. -/
def record (t : Token) : Json :=
  let word := match t.kind with
    | .keyword k => [("keyword", Json.text k.spelling)]
    | _ => []
  .record ([("kind", .text t.kind.label)] ++ word ++
    [("text", .text t.text), ("line", .number t.line.toNat), ("column", .number t.column.toNat),
      ("start", .number t.span.start), ("end", .number t.span.stop)])

def countLine (entry : String × Nat) : String :=
  let digits := entry.2.repr
  String.ofList (List.replicate (6 - digits.length) ' ') ++ digits ++ " " ++ entry.1 ++ "\n"

def asText (stats : Bool) (tokens : List Token) : String :=
  let lines := String.join (tokens.map fun t => t.render ++ "\n")
  if stats then lines ++ "\n" ++ String.join ((countKinds tokens).map countLine) else lines

def asJson (stats : Bool) (tokens : List Token) : Json :=
  let records := Json.list (tokens.map record)
  if stats then
    let counts := (countKinds tokens).map fun (label, n) => (label, Json.number n)
    .record [("tokens", records), ("stats", .record counts)]
  else records

def render (format : Format) (stats : Bool) (tokens : List Token) : String :=
  match format with
  | .text => asText stats tokens
  | .json => (asJson stats tokens).pretty ++ "\n"

end QueryScan.Listing
