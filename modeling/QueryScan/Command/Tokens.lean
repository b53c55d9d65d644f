import QueryScan.Command.Source
import QueryScan.Listing

/-! The command that lists the tokens of a query. -/
namespace QueryScan.Command

/-- What to list and how. The flags add to what the settings ask for. -/
structure TokensRequest where
  input : String
  format : Option String := none
  blanks : Bool := false
  noStrings : Bool := false
  element : Bool := false
  showBlanks : Bool := false
  stats : Bool := false
deriving DecidableEq, Repr

def formatNamed (name : String) : Except Failure Listing.Format :=
  match Listing.Format.ofName? name with
  | some f => .ok f
  | none => .error (.arguments (.unknownFormat name))

namespace TokensRequest

def mode (r : TokensRequest) (settings : Settings) : Mode :=
  let changes := [(r.blanks, ModeChange.blanks true), (r.noStrings, .strings false),
    (r.element, .element true)]
  changes.foldl (fun m (asked, change) => if asked then m.change change else m) settings.mode

def shown (r : TokensRequest) (settings : Settings) (tokens : List Token) : List Token :=
  tokens.filter fun t => r.showBlanks || settings.showBlanks || t.kind != .blank

/-- Lists the tokens. The format is looked up before the query is read. -/
def run {m : Type → Type} [Monad m] (host : Host m) (settings : Settings) (r : TokensRequest) :
    m Outcome := do
  match formatNamed (r.format.getD settings.format) with
  | .error failure => return { failure := some failure }
  | .ok format =>
    match ← Query.read host r.input with
    | .error failure => return { failure := some failure }
    | .ok query =>
      match query.tokens (r.mode settings) with
      | .error (e, report) => return { errors := report, failure := some (.lexical e) }
      | .ok tokens => return { output := Listing.render format r.stats (r.shown settings tokens) }

end TokensRequest

end QueryScan.Command
