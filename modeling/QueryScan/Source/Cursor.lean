import QueryScan.Source.Place
import QueryScan.Text.Find

/-! A reading point in a text. A cursor is a value, so an older one is its own way back: giving up
a trial means keeping the cursor from before it. -/
namespace QueryScan

/-- The characters read so far, the latest first, those ahead, and the point between them. -/
structure Cursor where
  before : List Char
  rest : List Char
  place : Place

namespace Cursor

def ofText (text : String) : Cursor :=
  ⟨[], text.toList, {}⟩

def source (c : Cursor) : List Char :=
  c.before.reverse ++ c.rest

def current? (c : Cursor) : Option Char :=
  c.rest.head?

/-- The character `n` places ahead; zero is the current one. -/
def peek? (c : Cursor) (n : Nat) : Option Char :=
  c.rest[n]?

/-- The `k`-th character ahead, counted from one. -/
def lookahead? (c : Cursor) (k : Nat) : Option Char :=
  c.peek? (k - 1)

def atEnd (c : Cursor) : Bool :=
  c.rest.isEmpty

def isAt (c : Cursor) (expected : Char) : Bool :=
  c.current? == some expected

def startsWith (c : Cursor) (text : List Char) : Bool :=
  text.isPrefixOf c.rest

/-- Reads one character; at the end the cursor stays. -/
def advance (c : Cursor) : Cursor :=
  match c.rest with
  | [] => c
  | x :: r => ⟨x :: c.before, r, c.place.step x⟩

def forward (c : Cursor) : Nat → Cursor
  | 0 => c
  | n + 1 => c.advance.forward n

def eat? (c : Cursor) (expected : Char) : Option Cursor :=
  if c.isAt expected then some c.advance else none

def eatText? (c : Cursor) (text : List Char) : Option Cursor :=
  if c.startsWith text then some (c.forward text.length) else none

def eatWhile (c : Cursor) (p : Char → Bool) : Cursor :=
  c.forward (Text.run p c.rest)

/-- Reads up to the first `mark`; to the end, and false, when there is none. -/
def eatUntil (c : Cursor) (mark : List Char) : Bool × Cursor :=
  match Text.find? mark c.rest with
  | some n => (true, c.forward n)
  | none => (false, c.forward c.rest.length)

/-- Runs a trial for its answer only. -/
def speculate (c : Cursor) (trial : Cursor → Bool × Cursor) : Bool × Cursor :=
  ((trial c).1, c)

/-- Keeps the progress of a trial that succeeds, and none of one that fails. -/
def attempt {α : Type} (c : Cursor) (trial : Cursor → Option (α × Cursor)) : Option α × Cursor :=
  match trial c with
  | some (a, d) => (some a, d)
  | none => (none, c)

def textSince (c mark : Cursor) : List Char :=
  (c.before.take (c.before.length - mark.before.length)).reverse

theorem length_rest_advance (c : Cursor) : c.advance.rest.length = c.rest.length - 1 := by
  unfold advance
  split <;> simp_all

theorem length_rest_forward (c : Cursor) (n : Nat) :
    (c.forward n).rest.length = c.rest.length - n := by
  induction n generalizing c with
  | zero => rfl
  | succ n ih => rw [forward, ih, length_rest_advance]; omega

end Cursor

end QueryScan
