/-! Byte counts of text in UTF-8 and cuts at byte offsets. A cut inside a character is refused, it
is never rounded. -/
namespace QueryScan.Text

def byteLength (cs : List Char) : Nat :=
  cs.foldr (fun c n => c.utf8Size + n) 0

/-- How many characters at the start of `cs` make up exactly `n` bytes. -/
def charsIn? (n : Nat) (cs : List Char) : Option Nat :=
  go 0 n cs
where
  /-- The count after `k` characters, with `n` bytes still to go. -/
  go (k : Nat) : Nat → List Char → Option Nat
    | 0, _ => some k
    | _ + 1, [] => none
    | n + 1, c :: r => if c.utf8Size ≤ n + 1 then go (k + 1) (n + 1 - c.utf8Size) r else none

/-- The text between two byte offsets, `stop` not included. -/
def slice? (cs : List Char) (start stop : Nat) : Option (List Char) := do
  if stop < start then none
  let skipped ← charsIn? start cs
  let rest := cs.drop skipped
  let taken ← charsIn? (stop - start) rest
  return rest.take taken

end QueryScan.Text
