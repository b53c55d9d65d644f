import QueryScan.Command.Check
import QueryScan.Command.Tokens

/-! The arguments of the command line. Options may stand before and behind the name of a command;
those of a command only behind it. An option is given once at most at each of the two places. -/
namespace QueryScan.Command

inductive Flag where
  | verbose | config | noColor
  | format | wsExplicit | noStringLiterals | elementContent | showTrivia | stats
  | jobs
  | version | help
deriving DecidableEq, Repr

namespace Flag

def long : Flag → String
  | verbose => "verbose"
  | config => "config"
  | noColor => "no-color"
  | format => "format"
  | wsExplicit => "ws-explicit"
  | noStringLiterals => "no-string-literals"
  | elementContent => "element-content"
  | showTrivia => "show-trivia"
  | stats => "stats"
  | jobs => "jobs"
  | version => "version"
  | help => "help"

def short? : Flag → Option Char
  | verbose => some 'v'
  | config => some 'c'
  | format => some 'F'
  | jobs => some 'j'
  | version => some 'V'
  | help => some 'h'
  | _ => none

def takesValue : Flag → Bool
  | config | format | jobs => true
  | _ => false

/-- A number without a sign, or with a plus, of 64 bits. -/
def jobs? (value : String) : Option Nat :=
  let digits := match value.toList with
    | '+' :: r => r
    | cs => cs
  if digits.isEmpty || !digits.all Char.isDigit then none
  else
    let n := Text.valueOf 10 digits
    if n < 0x10000000000000000 then some n else none

def accepts (flag : Flag) (value : String) : Bool :=
  match flag with
  | config => value != ""
  | jobs => (jobs? value).isSome
  | _ => true

end Flag

/-- Where options stand: before a command, or behind one. -/
inductive Level where
  | top | tokens | check
deriving DecidableEq, Repr

namespace Level

def flags (level : Level) : List Flag :=
  let everywhere : List Flag := [.verbose, .config, .noColor, .version, .help]
  everywhere ++ match level with
    | top => []
    | tokens =>
      [.format, .wsExplicit, .noStringLiterals, .elementContent, .showTrivia, .stats]
    | check => [.jobs]

def ofName? : String → Option Level
  | "tokens" => some tokens
  | "check" => some check
  | _ => none

/-- How many arguments that are no options the level takes; none for any number. -/
def places? : Level → Option Nat
  | top => some 0
  | tokens => some 1
  | check => none

def title : Level → String
  | top => "xqt"
  | tokens => "xqt-tokens"
  | check => "xqt-check"

end Level

inductive Halt where
  | usage
  | version (level : Level)
  | help (level : Level)
deriving DecidableEq, Repr

structure Given where
  options : List (Flag × String) := []
  others : List String := []
deriving DecidableEq, Repr

namespace Given

def has (g : Given) (flag : Flag) : Bool :=
  (g.options.lookup flag).isSome

def value? (g : Given) (flag : Flag) : Option String :=
  g.options.lookup flag

/-- Takes an option; asking for the version or for help ends all. -/
def addOption (level : Level) (g : Given) (flag : Flag) (value : String) : Except Halt Given :=
  if flag = .version then .error (.version level)
  else if flag = .help then .error (.help level)
  else if g.has flag || !flag.accepts value then .error .usage
  else .ok { g with options := g.options ++ [(flag, value)] }

def addOther (level : Level) (g : Given) (argument : String) : Except Halt Given :=
  if argument == "" || level.places? == some g.others.length then .error .usage
  else .ok { g with others := g.others ++ [argument] }

end Given

def isValue (argument : String) : Bool :=
  argument == "-" || !argument.startsWith "-"

/-- Options of one letter in one argument. The value of the last one is the rest of the argument,
behind an equals sign or not; with nothing left it is the next argument, and the option is given
back to wait for it. -/
def addLetters (level : Level) (g : Given) : List Char → Except Halt (Given × Option Flag)
  | [] => .ok (g, none)
  | c :: rest =>
    match level.flags.find? fun flag => flag.short? == some c with
    | none => .error .usage
    | some flag =>
      if flag.takesValue then
        match rest with
        | [] => .ok (g, some flag)
        | '=' :: value => (g.addOption level flag (String.ofList value)).map (·, none)
        | value => (g.addOption level flag (String.ofList value)).map (·, none)
      else do
        addLetters level (← g.addOption level flag "") rest

def addLong (level : Level) (g : Given) (argument : String) : Except Halt (Given × Option Flag) :=
  let cs := argument.toList
  let name := cs.takeWhile (· != '=')
  match level.flags.find? fun flag => flag.long == String.ofList name with
  | none => .error .usage
  | some flag =>
    match cs.drop name.length, flag.takesValue with
    | [], true => .ok (g, some flag)
    | [], false => (g.addOption level flag "").map (·, none)
    | _ :: value, true => (g.addOption level flag (String.ofList value)).map (·, none)
    | _ :: _, false => .error .usage

/-- Reads the arguments of a level. `waiting` is an option whose value comes next. Before a command
the reading ends at the name of one. -/
def readLevel (level : Level) (g : Given) (waiting : Option Flag) :
    List String → Except Halt (Given × Option (Level × List String))
  | [] => if waiting.isSome then .error .usage else .ok (g, none)
  | argument :: rest =>
    match waiting with
    | some flag =>
      if isValue argument then do
        readLevel level (← g.addOption level flag argument) none rest
      else .error .usage
    | none =>
      if argument == "--" then do
        return (← rest.foldlM (fun g other => g.addOther level other) g, none)
      else if argument.startsWith "--" then do
        let (g, waiting) ← addLong level g (String.ofList (argument.toList.drop 2))
        readLevel level g waiting rest
      else if isValue argument then
        match level, Level.ofName? argument with
        | .top, some command => .ok (g, some (command, rest))
        | _, _ => do readLevel level (← g.addOther level argument) none rest
      else do
        let (g, waiting) ← addLetters level g (argument.toList.drop 1)
        readLevel level g waiting rest

structure Environment where
  verbose : Option String := none
  config : Option String := none
  noColor : Option String := none

namespace Environment

def isBoolean (value : String) : Bool :=
  value == "true" || value == "false"

/-- Every variable that is not overruled by an option of the level has a value that it can have. -/
def fits (v : Environment) (g : Given) : Bool :=
  (g.has .verbose || v.verbose.all isBoolean) && (g.has .noColor || v.noColor.all isBoolean) &&
    (g.has .config || v.config.all (Flag.accepts .config))

end Environment

inductive Request where
  | tokens (request : TokensRequest)
  | check (request : CheckRequest)
deriving DecidableEq, Repr

def Request.ofGiven : Level → Given → Except Halt Request
  | .tokens, g =>
    match g.others with
    | [input] =>
      .ok (.tokens {
        input
        format := g.value? .format
        blanks := g.has .wsExplicit
        noStrings := g.has .noStringLiterals
        element := g.has .elementContent
        showBlanks := g.has .showTrivia
        stats := g.has .stats })
    | _ => .error .usage
  | .check, g =>
    if g.others.isEmpty then .error .usage
    else .ok (.check { inputs := g.others, jobs := (g.value? .jobs).bind Flag.jobs? })
  | .top, _ => .error .usage

/-- What the command line asks for: a request, and the settings file to use if one is named. An
option behind the command goes before one ahead of it, and both before a variable. -/
def readArguments (environment : Environment) (arguments : List String) :
    Except Halt (Request × Option String) := do
  match ← readLevel .top {} none arguments with
  | (_, none) => .error .usage
  | (top, some (level, rest)) =>
    let (g, _) ← readLevel level {} none rest
    if !(environment.fits g && environment.fits top) then .error .usage
    let request ← Request.ofGiven level g
    return (request, (g.value? .config).or ((top.value? .config).or environment.config))

end QueryScan.Command
