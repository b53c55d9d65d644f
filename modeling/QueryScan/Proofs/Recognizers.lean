import QueryScan.Proofs.References

/-! The rules as they are tried on one cursor. A recognizer may move the cursor and need not put it
back; the recognizers behind it go on from wherever it stands. A token is begun once, with the place
and the text ahead, and errors are told from there. -/
namespace QueryScan

namespace Reader

variable {α β : Type}

def bind : {α β : Type} → Reader α → (α → Reader β) → Reader β
  | _, _, .done a, f => f a
  | _, _, .ask r next, f => .ask r fun b => (next b).bind f
  | _, _, .mark next, f => .mark fun i => (next i).bind f
  | _, _, .restore i next, f => .restore i (next.bind f)
  | _, _, .speculate trial next, f => .speculate trial fun b => (next b).bind f
  | _, _, .attempt trial next, f => .attempt trial fun b => (next b).bind f

instance : Monad Reader where
  pure := .done
  bind := bind

/-- Asks one thing. -/
def once (operation : Operation β) : Reader β :=
  .ask operation .done

/-! ### Runs without marks -/

/-- From `c` the reader gives `a` and ends at `d`, and no mark is set. -/
def Ends (reader : Reader α) (c : Cursor) (a : α) (d : Cursor) : Prop :=
  ∀ marks, reader.run ⟨c, marks⟩ = (a, ⟨d, marks⟩)

theorem run_bind (reader : Reader α) (f : α → Reader β) (s : Marked Cursor Cursor) :
    (reader >>= f).run s = (f (reader.run s).1).run (reader.run s).2 := by
  show (reader.bind f).run s = _
  induction reader generalizing s with
  | done a => rfl
  | ask r next ih => exact ih _ f _
  | mark next ih => exact ih _ f _
  | restore i next ih => exact ih f _
  | speculate trial next ihTrial ih => exact ih _ f _
  | attempt trial next ihTrial ih => exact ih _ f _

section

variable {c d e : Cursor} {a : α} {b : β} {t r mark : List Char} {x : Char}

theorem Ends.pure (a : α) (c : Cursor) : (Pure.pure a : Reader α).Ends c a c :=
  fun _ => rfl

theorem Ends.bind {reader : Reader α} {f : α → Reader β} (h : reader.Ends c a d)
    (k : (f a).Ends d b e) : (reader >>= f).Ends c b e := by
  intro marks
  rw [run_bind, h marks]
  exact k marks

theorem ends_current (c : Cursor) : (once .current).Ends c c.rest.head? c :=
  fun _ => rfl

theorem ends_lookahead (k : Nat) (c : Cursor) : (once (.lookahead k)).Ends c c.rest[k - 1]? c :=
  fun _ => rfl

theorem ends_startsWith (t : List Char) (c : Cursor) :
    (once (.startsWith t)).Ends c (t.isPrefixOf c.rest) c :=
  fun _ => rfl

theorem ends_place (c : Cursor) : (once .place).Ends c c.place c :=
  fun _ => rfl

theorem ends_rest (c : Cursor) : (once .rest).Ends c c.rest c :=
  fun _ => rfl

theorem ends_advance (c : Cursor) : (once .advance).Ends c c.rest.head? (c.forward 1) :=
  fun _ => rfl

theorem ends_eatText (ahead : c.rest = t ++ r) :
    (once (.eatText t)).Ends c true (c.forward t.length) :=
  fun marks => run_eatText .done marks ahead

theorem ends_eatText_of_not (other : ¬ t <+: c.rest) : (once (.eatText t)).Ends c false c :=
  fun marks => run_eatText_of_not .done marks other

theorem ends_eat (ahead : c.rest = x :: r) : (once (.eat x)).Ends c true (c.forward 1) :=
  fun marks => run_eat_of_ahead .done marks ahead

theorem ends_eat_of_ne (other : ∀ r, c.rest ≠ x :: r) : (once (.eat x)).Ends c false c :=
  fun marks => run_eat_of_ne .done marks other

theorem ends_eatWhile (p : Char → Bool) (c : Cursor) :
    (once (.eatWhile p)).Ends c (Text.run p c.rest) (c.forward (Text.run p c.rest)) :=
  fun marks => run_eatWhile p .done c marks

theorem ends_eatUntil {n : Nat} (found : Text.find? mark c.rest = some n) :
    (once (.eatUntil mark)).Ends c true (c.forward n) := by
  intro marks
  simp only [once, run, Cursor.answer, Cursor.eatUntil, found]

theorem ends_eatUntil_of_none (missing : Text.find? mark c.rest = none) :
    (once (.eatUntil mark)).Ends c false (c.forward c.rest.length) := by
  intro marks
  simp only [once, run, Cursor.answer, Cursor.eatUntil, missing]

/-- Where the trial stops is forgotten. -/
theorem Ends.speculate {trial : Reader Bool} {found : Bool} (h : trial.Ends c found d) :
    (Reader.speculate trial .done).Ends c found c := by
  intro marks
  simp only [run, Cursor.speculate, h marks]

end

end Reader

/-- What a dispatch comes to. -/
inductive Verdict where
  | token (kind : Kind)
  | skipped
  | failed (error : LexError)

/-- Where a token is begun. -/
structure Start where
  place : Place
  ahead : List Char

namespace Recognizer

open Reader (once)
open Scan (isPlain referenceReader dots angles)
open Unicode (isBlank isDigit isNameStart isNameChar)

/-! ### Errors -/

/-- What stands at the cursor starts no token. -/
def noViable (found : Char) : Reader Verdict := do
  let here ← once .place
  return .failed (.noViableToken found (here.upTo (here.offset + found.utf8Size)))

/-- The construct that was opened at `opening` runs to the end. -/
def unterminated (construct : Construct) (opening : Place) : Reader Verdict := do
  let here ← once .place
  let ahead ← once .rest
  return .failed (.unterminated construct (opening.upTo (here.offset + Text.byteLength ahead)))

def textSince (start : Start) : Reader (List Char) := do
  let ahead ← once .rest
  return start.ahead.take (start.ahead.length - ahead.length)

def malformedNumber (start : Start) : Reader Verdict := do
  let text ← textSince start
  let here ← once .place
  return .failed (.malformedNumber (String.ofList text) (start.place.upTo here.offset))

/-- A copy of the cursor looks for the end of what was meant as a reference. -/
def malformedReference : Reader Verdict := do
  let here ← once .place
  let ahead ← once .rest
  let probe := (Cursor.mk [] ahead here).advance.eatWhile fun c => c == '#' || c.isAlphanum
  return .failed (.malformedReference (here.upTo ((probe.eat? ';').getD probe).place.offset))

/-! ### Parts -/

def certain (reader : Reader Verdict) : Reader (Option Verdict) := do
  return some (← reader)

def guarded (condition : Bool) (reader : Reader (Option Verdict)) : Reader (Option Verdict) :=
  if condition then reader else return none

/-- Goes on where the text is ahead, which is left there. -/
def opened (text : List Char) (reader : Reader Verdict) : Reader (Option Verdict) := do
  guarded (← once (.startsWith text)) (certain reader)

/-- Eats the first of the texts that it can. -/
def symbol : List (List Char × Symbol) → Reader (Option Verdict)
  | [] => return none
  | (text, symbol) :: table => do
    if ← once (.eatText text) then return some (.token (.symbol symbol))
    else Recognizer.symbol table

/-- Looks the character up, and then reads it. -/
def character (table : List (List Char × Symbol)) (found : Char) : Reader (Option Verdict) :=
  match table.find? fun entry => entry.1 == [found] with
  | some entry => do
    let _ ← once .advance
    return some (.token (.symbol entry.2))
  | none => return none

def either (first second : Char) : Reader Bool := do
  if ← once (.eat first) then return true else once (.eat second)

def closed (mark : List Char) (kind : Kind) (construct : Construct) (opening : Place) :
    Reader Verdict := do
  if ← once (.eatUntil mark) then
    let _ ← once (.eatText mark)
    return .token kind
  else unterminated construct opening

def content (kind : Kind) (p : Char → Bool) : Reader (Option Verdict) := do
  let length ← once (.eatWhile p)
  return if length > 0 then some (.token kind) else none

def reference : Reader Verdict := do
  match ← referenceReader with
  | some kind => return .token kind
  | none => malformedReference

/-! ### Comments, pragmas and blanks -/

/-- `depth` comments are open. There are no more passes than characters. -/
def commentBody (start : Start) : (passes depth : Nat) → Reader Verdict
  | _, 0 => return .skipped
  | 0, _ + 1 => unterminated .comment start.place
  | passes + 1, depth + 1 => do
    if ← once (.eatText ['(', ':']) then commentBody start passes (depth + 2)
    else if ← once (.eatText [':', ')']) then commentBody start passes depth
    else
      match ← once .advance with
      | some _ => commentBody start passes (depth + 1)
      | none => unterminated .comment start.place

def comment (start : Start) : Reader Verdict := do
  let _ ← once (.eatText ['(', ':'])
  commentBody start start.ahead.length 1

def pragmaStart : Reader Verdict := do
  let _ ← once (.eatText ['(', '#'])
  let _ ← once (.eatWhile isBlank)
  return .token .pragmaStart

def pragmaEnd (opening : Place) : Reader Verdict := do
  if ← once (.eatText ['#', ')']) then return .token .pragmaEnd
  else if ← once (.isAt '#') then noViable '#'
  else
    let _ ← once (.eatWhile isBlank)
    closed ['#', ')'] .pragmaEnd .pragma opening

def whitespace (m : Mode) : Reader Verdict := do
  let _ ← once (.eatWhile isBlank)
  return if m.blanks then .token .blank else .skipped

/-! ### Markup -/

def xmlCommentBody (start : Start) : (passes : Nat) → Reader Verdict
  | 0 => unterminated .xmlComment start.place
  | passes + 1 => do
    if ← once (.eatText ['-', '-', '>']) then return .token .comment
    else if ← once (.startsWith ['-', '-']) then
      let _ ← once .advance
      noViable '-'
    else
      match ← once .advance with
      | some _ => xmlCommentBody start passes
      | none => unterminated .xmlComment start.place

def xmlComment (start : Start) : Reader Verdict := do
  let _ ← once (.eatText ['<', '!', '-', '-'])
  xmlCommentBody start start.ahead.length

def cdata (start : Start) : Reader Verdict := do
  let _ ← once (.eatText ['<', '!', '[', 'C', 'D', 'A', 'T', 'A', '['])
  closed [']', ']', '>'] .cdata .cdata start.place

def instructionTail (start : Start) : Reader Verdict := do
  if ← once (.eatText ['?', '>']) then return .token .instruction
  else
    match ← once .current with
    | none => unterminated .instruction start.place
    | some c =>
      if isBlank c then
        let _ ← once (.eatWhile isBlank)
        closed ['?', '>'] .instruction .instruction start.place
      else noViable c

def instruction (start : Start) : Reader Verdict := do
  let _ ← once (.eatText ['<', '?'])
  let _ ← once .advance
  let _ ← once (.eatWhile isNameChar)
  instructionTail start

def angle (start : Start) : Reader (Option Verdict) := do
  let second ← once (.lookahead 2)
  let third ← once (.lookahead 3)
  if second = some '?' ∧ third.any isNameStart then certain (instruction start)
  else symbol angles

def attributeEscape (m : Mode) : Reader (Option Verdict) :=
  match m.delimiter? with
  | none => return none
  | some d => do
    let first ← once (.lookahead 1)
    let second ← once (.lookahead 2)
    if first = some d.char ∧ second = some d.char then
      let _ ← once .advance
      let _ ← once .advance
      return some (.token (.escape d))
    else return none

def attributeContent (m : Mode) (found : Char) : Reader (Option Verdict) :=
  match m.delimiter? with
  | none => return none
  | some d =>
    if found = '&' then certain reference
    else content .attributeText fun c => c != d.char && isPlain c

def quote (m : Mode) (found : Char) : Reader (Option Verdict) :=
  match Delimiter.ofChar? found with
  | none => return none
  | some d => guarded (!(m.strings || m.inElement)) do
    let _ ← once .advance
    return some (.token (.quote d))

def elementContent (m : Mode) (found : Char) : Reader (Option Verdict) :=
  guarded m.inElement (if found = '&' then certain reference else content .elementText isPlain)

/-! ### Numbers, strings and names -/

/-- Whether there was a dot; none where there is no mantissa. -/
def mantissa : Reader (Option Bool) := do
  if ← once (.eat '.') then
    return if (← once (.eatWhile isDigit)) > 0 then some true else none
  else if (← once (.eatWhile isDigit)) > 0 then
    if ← once (.eat '.') then
      let _ ← once (.eatWhile isDigit)
      return some true
    else return some false
  else return none

def exponent (start : Start) : Reader Verdict := do
  let _ ← either 'e' 'E'
  let _ ← either '+' '-'
  if (← once (.eatWhile isDigit)) = 0 then malformedNumber start else return .token .double

/-- A trial looks behind the mantissa for the mark of an exponent, before anything is read. -/
def numeral (start : Start) : Reader Verdict := do
  let double ← Reader.speculate (do
    if (← mantissa).isSome then either 'e' 'E' else return false) .done
  let dotted ← mantissa
  if double then exponent start
  else return .token (if dotted.getD false then .decimal else .integer)

def numberAhead (first second : Option Char) : Bool :=
  if first = some '.' then second.any isDigit else first.any isDigit

def number (start : Start) : Reader (Option Verdict) := do
  let first ← once (.lookahead 1)
  let second ← once (.lookahead 2)
  if numberAhead first second then certain (numeral start) else symbol dots

def stringBody (start : Start) (d : Char) : (passes : Nat) → Reader Verdict
  | 0 => unterminated .string start.place
  | passes + 1 => do
    match ← once .current with
    | none => unterminated .string start.place
    | some c =>
      if c = d then
        let _ ← once .advance
        if ← once (.eat d) then stringBody start d passes else return .token .string
      else if c = '&' then
        match ← referenceReader with
        | some _ => stringBody start d passes
        | none => malformedReference
      else
        let _ ← once .advance
        stringBody start d passes

def string (start : Start) : Reader Verdict := do
  match ← once .advance with
  | none => unterminated .string start.place
  | some d => stringBody start d start.ahead.length

def name (start : Start) : Reader Verdict := do
  let _ ← once .advance
  let _ ← once (.eatWhile isNameChar)
  return .token (.ofName (← textSince start))

end Recognizer

/-! ### Dispatch -/

section

open Recognizer

/-- The recognizers for a text with `found` ahead, the first to be tried first. -/
def recognizers (m : Mode) (pragma : Option Place) (start : Start) (found : Char) :
    List (Reader (Option Verdict)) :=
  let outside := !m.inContent
  [character Scan.braces found, guarded outside (opened ['(', ':'] (comment start)),
    opened ['<', '!', '-', '-'] (xmlComment start),
    opened ['<', '!', '[', 'C', 'D', 'A', 'T', 'A', '['] (cdata start),
    guarded outside (number start), guarded outside (symbol Scan.closingMarks),
    guarded (found == '<') (angle start), attributeEscape m,
    guarded ((Delimiter.ofChar? found).isSome && m.strings && !m.inElement)
      (certain (string start)),
    guarded outside (symbol Scan.pairs), guarded outside (opened ['(', '#'] pragmaStart),
    guarded (m.pragma && (Unicode.isBlank found || found == '#'))
      (certain (pragmaEnd (pragma.getD start.place))),
    character Scan.lessSign found, attributeContent m found, quote m found, elementContent m found,
    guarded (!m.pragma && Unicode.isBlank found) (certain (whitespace m)),
    guarded (Unicode.isNameStart found) (certain (name start)), character Scan.singles found]

/-- No cursor is put back between two recognizers. -/
def tryAll (found : Char) : List (Reader (Option Verdict)) → Reader Verdict
  | [] => noViable found
  | reader :: readers => do
    match ← reader with
    | some verdict => return verdict
    | none => tryAll found readers

def endOfInput (m : Mode) (opening : Place) : Reader Verdict :=
  if m.pragma then unterminated .pragma opening else return .token .eof

def dispatch (m : Mode) (pragma : Option Place) : Reader Verdict := do
  let start := Start.mk (← Reader.once .place) (← Reader.once .rest)
  match ← Reader.once .current with
  | none => endOfInput m (pragma.getD start.place)
  | some found => tryAll found (recognizers m pragma start found)

end

end QueryScan
