import QueryScan.Scan.Error
import QueryScan.Scan.Progress
import QueryScan.Token.Basic

/-! The scanner: a cursor, a mode and what has gone wrong so far. Tokens are taken one at a time.
The first error is final; it is logged once and given again on every later call. -/
namespace QueryScan

structure Scanner where
  cursor : Cursor
  mode : Mode
  /-- Where the open pragma starts, if it was opened here. -/
  pragmaStart : Option Place := none
  failure : Option LexError := none
  /-- The sequence of tokens has come to its end. -/
  exhausted : Bool := false
  log : Log := {}

namespace Scanner

def ofText (source : String) (mode : Mode := {}) : Scanner :=
  { cursor := .ofText source, mode }

def change (s : Scanner) (c : ModeChange) : Scanner :=
  { s with mode := s.mode.change c }

/-- Passes over comments and blanks: the cursor behind them, and the token or fault there. -/
def settle (m : Mode) (c : Cursor) : Cursor × Except Fault (Kind × Nat) :=
  match _found : Scan.step m c.rest with
  | .skip n => settle m (c.forward n)
  | .token kind length => (c, .ok (kind, length))
  | .fault cause => (c, .error cause)
termination_by c.rest.length
decreasing_by
  have := Scan.pos_of_step_eq_skip _found
  rw [Cursor.length_rest_forward]
  omega

def tokenAt (c : Cursor) (kind : Kind) (length : Nat) : Token :=
  ⟨kind, String.ofList (c.rest.take length), c.place.upTo (c.forward length).place.offset⟩

def pragmaBehind (open? : Option Place) (p : Place) : Kind → Option Place
  | .pragmaStart => some p
  | .pragmaEnd => none
  | _ => open?

/-- The next token, at the end again and again that of the end. -/
def next (s : Scanner) : Except LexError Token × Scanner :=
  match s.failure with
  | some e => (.error e, s)
  | none =>
    match settle s.mode s.cursor with
    | (c, .ok (kind, length)) =>
      (.ok (tokenAt c kind length),
        { s with
          cursor := c.forward length
          mode := s.mode.onToken kind
          pragmaStart := pragmaBehind s.pragmaStart c.place kind })
    | (c, .error cause) =>
      let e := cause.locate c s.pragmaStart
      (.error e,
        { s with
          cursor := c.forward (cause.reach c.rest)
          failure := some e
          log := s.log.emit e.diagnostic })

/-- The next of the sequence of tokens, which ends before the end of the source and behind an
error. -/
def pull (s : Scanner) : Option (Except LexError Token) × Scanner :=
  if s.exhausted then (none, s)
  else
    match s.next with
    | (.ok t, s') => if t.isEof then (none, { s' with exhausted := true }) else (some (.ok t), s')
    | (.error e, s') => (some (.error e), { s' with exhausted := true })

end Scanner

end QueryScan
