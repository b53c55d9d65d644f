import QueryScan.Proofs.Faults
import QueryScan.Proofs.Pointers

/-! References, read step by step. The trial commits itself to the first name that fits and to the
class of digits that the mark asks for, and may have read any part of the text when it fails; as an
attempt it reads a whole reference or nothing. It finds the references that the rules of the scanner
find by looking ahead. -/
namespace QueryScan

open Grammar
open Text (isHexDigit)

namespace Scan

/-- A semicolon closes the reference. -/
def closedAs (kind : Kind) : Reader (Option Kind) :=
  .ask (.eat ';') fun closed => .done (if closed then some kind else none)

def digitsTrial (p : Char → Bool) : Reader (Option Kind) :=
  .ask (.eatWhile p) fun digits => if digits = 0 then .done none else closedAs .charRef

/-- The first of the names that stands ahead is the only one that is tried. -/
def nameTrial : List (List Char) → Reader (Option Kind)
  | [] => .done none
  | name :: names =>
    .ask (.eatText name) fun found => if found then closedAs .entityRef else nameTrial names

def codeTrial : Reader (Option Kind) :=
  .ask (.eat 'x') fun hexadecimal => digitsTrial (if hexadecimal then isHexDigit else Char.isDigit)

def referenceTrial : Reader (Option Kind) :=
  .ask (.eat '&') fun opened =>
    if opened then
      .ask (.eat '#') fun numeric => if numeric then codeTrial else nameTrial entityNames
    else .done none

/-- Reads one reference, or nothing. -/
def referenceReader : Reader (Option Kind) :=
  .attempt referenceTrial .done

end Scan

/-! ### Steps of a trial -/

namespace Reader

variable {α : Type}

theorem run_eatText {t r : List Char} {c : Cursor} (next : Bool → Reader α) (marks : List Cursor)
    (ahead : c.rest = t ++ r) :
    (ask (.eatText t) next).run ⟨c, marks⟩ = (next true).run ⟨c.forward t.length, marks⟩ := by
  rcases c.orStay_eatText? t with ⟨-, found⟩ | ⟨other, -⟩
  · simp only [run, Cursor.answer, found]
  · exact absurd ⟨r, ahead.symm⟩ other

theorem run_eatText_of_not {t : List Char} {c : Cursor} (next : Bool → Reader α)
    (marks : List Cursor) (other : ¬ t <+: c.rest) :
    (ask (.eatText t) next).run ⟨c, marks⟩ = (next false).run ⟨c, marks⟩ := by
  rcases c.orStay_eatText? t with ⟨start, -⟩ | ⟨-, missing⟩
  · exact absurd start other
  · simp only [run, Cursor.answer, missing]

theorem run_eat (x : Char) (next : Bool → Reader α) (s : Marked Cursor Cursor) :
    (ask (.eat x) next).run s = (ask (.eatText [x]) next).run s := by
  simp only [run, Cursor.answer, Cursor.eat?_eq_eatText?]

theorem run_eat_of_ahead {x : Char} {r : List Char} {c : Cursor} (next : Bool → Reader α)
    (marks : List Cursor) (ahead : c.rest = x :: r) :
    (ask (.eat x) next).run ⟨c, marks⟩ = (next true).run ⟨c.forward 1, marks⟩ := by
  rw [run_eat, run_eatText _ _ ahead, List.length_singleton]

theorem run_eat_of_ne {x : Char} {c : Cursor} (next : Bool → Reader α) (marks : List Cursor)
    (other : ∀ r, c.rest ≠ x :: r) :
    (ask (.eat x) next).run ⟨c, marks⟩ = (next false).run ⟨c, marks⟩ := by
  rw [run_eat, run_eatText_of_not]
  rintro ⟨r, ahead⟩
  exact other r ahead.symm

theorem run_eatWhile (p : Char → Bool) (next : Nat → Reader α) (c : Cursor) (marks : List Cursor) :
    (ask (.eatWhile p) next).run ⟨c, marks⟩ =
      (next (Text.run p c.rest)).run ⟨c.forward (Text.run p c.rest), marks⟩ := by
  simp only [run, Cursor.answer, Cursor.length_textSince_eatWhile]
  rfl

/-- The trial reads what is found ahead: a kind and its length. Where nothing is found it may stop
anywhere. -/
def Finds (trial : Reader (Option Kind)) (c : Cursor) : Option (Kind × Nat) → Prop
  | some (k, n) => ∀ marks, trial.run ⟨c, marks⟩ = (some k, ⟨c.forward n, marks⟩)
  | none => ∀ marks, ∃ d, trial.run ⟨c, marks⟩ = (none, ⟨d, marks⟩)

/-- Behind the first `m` characters the trial goes on as another one. -/
theorem Finds.behind {trial later : Reader (Option Kind)} {c : Cursor} {m : Nat}
    {found : Option (Kind × Nat)} (h : later.Finds (c.forward m) found)
    (moved : ∀ marks, trial.run ⟨c, marks⟩ = later.run ⟨c.forward m, marks⟩) :
    trial.Finds c (found.map fun (k, n) => (k, m + n)) := by
  cases found with
  | none =>
      intro marks
      obtain ⟨d, stopped⟩ := h marks
      exact ⟨d, (moved marks).trans stopped⟩
  | some given =>
      intro marks
      rw [moved marks, h marks, Cursor.forward_forward]

theorem Finds.congr {trial later : Reader (Option Kind)} {c : Cursor}
    {found : Option (Kind × Nat)} (h : later.Finds c found)
    (same : ∀ marks, trial.run ⟨c, marks⟩ = later.run ⟨c, marks⟩) : trial.Finds c found := by
  cases found <;> simpa only [Finds, same] using h

/-- An attempt reads what is found, or nothing. -/
theorem Finds.attempt {trial : Reader (Option Kind)} {c : Cursor} {found : Option (Kind × Nat)}
    (h : trial.Finds c found) (marks : List Cursor) :
    (Reader.attempt trial .done).run ⟨c, marks⟩ =
      (found.map Prod.fst, ⟨c.forward (found.elim 0 Prod.snd), marks⟩) := by
  cases found with
  | none =>
      obtain ⟨d, stopped⟩ := h marks
      rw [run_failure _ (congrArg Prod.fst stopped), stopped]
      rfl
  | some given =>
      have read := h marks
      rw [run_success _ (congrArg Prod.fst read), read]
      rfl

end Reader

namespace Scan

open Reader (Finds run_eatText run_eatText_of_not run_eat_of_ahead run_eat_of_ne run_eatWhile)

/-- What is closed behind `m` characters, and is one longer then. -/
theorem finds_closed {trial : Reader (Option Kind)} {kind : Kind} {c : Cursor} {m : Nat}
    (moved : ∀ marks, trial.run ⟨c, marks⟩ = (closedAs kind).run ⟨c.forward m, marks⟩) :
    trial.Finds c ((if (c.rest.drop m).head? = some ';' then some (m + 1) else none).map
      fun n => (kind, n)) := by
  rw [← Cursor.forward_rest]
  split
  · next closed =>
      obtain ⟨r, ahead⟩ := List.head?_eq_some_iff.mp closed
      intro marks
      rw [moved, closedAs, run_eat_of_ahead _ _ ahead, Cursor.forward_forward]
      rfl
  · next stuck =>
      intro marks
      refine ⟨c.forward m, ?_⟩
      rw [moved, closedAs, run_eat_of_ne]
      · rfl
      · exact fun r ahead => stuck (by rw [ahead]; rfl)

theorem digitsTrial_finds (p : Char → Bool) (c : Cursor) :
    (digitsTrial p).Finds c ((digitsAndSemicolon? p c.rest).map fun n => (.charRef, n)) := by
  by_cases empty : Text.run p c.rest = 0
  · have nothing : digitsAndSemicolon? p c.rest = none := by simp [digitsAndSemicolon?, empty]
    rw [nothing]
    intro marks
    refine ⟨c, ?_⟩
    rw [digitsTrial, run_eatWhile, if_pos empty, empty]
    rfl
  · have found : (digitsTrial p).Finds c _ := finds_closed fun marks => by
      rw [digitsTrial, run_eatWhile, if_neg empty]
    simpa only [digitsAndSemicolon?, ne_eq, empty, not_false_eq_true, true_and] using found

/-- The name that is found first decides, also where it is not closed. -/
theorem nameTrial_finds (names : List (List Char)) (c : Cursor) :
    (nameTrial names).Finds c
      (((names.find? fun n => n.isPrefixOf c.rest).bind fun name =>
        if (c.rest.drop name.length).head? = some ';' then some (name.length + 1) else none).map
          fun n => (.entityRef, n)) := by
  induction names with
  | nil => exact fun marks => ⟨c, rfl⟩
  | cons name names ih =>
      cases start : name.isPrefixOf c.rest with
      | true =>
          obtain ⟨r, ahead⟩ := List.isPrefixOf_iff_prefix.mp start
          simp only [List.find?_cons, start, Option.bind_some]
          refine finds_closed fun marks => ?_
          rw [nameTrial, run_eatText _ _ ahead.symm, if_pos rfl]
      | false =>
          have other : ¬ name <+: c.rest := by
            rw [← List.isPrefixOf_iff_prefix, start]
            exact Bool.false_ne_true
          simp only [List.find?_cons, start]
          refine ih.congr fun marks => ?_
          rw [nameTrial, run_eatText_of_not _ _ other]
          rfl

theorem codeTrial_finds_hexadecimal {c : Cursor} {r : List Char} (ahead : c.rest = 'x' :: r) :
    codeTrial.Finds c ((digitsAndSemicolon? isHexDigit r).map fun n => (.charRef, 1 + n)) := by
  have next : (c.forward 1).rest = r := Cursor.rest_behind (t := ['x']) ahead
  have found := digitsTrial_finds isHexDigit (c.forward 1)
  rw [next] at found
  have whole : codeTrial.Finds c _ := found.behind fun marks => by
    rw [codeTrial, run_eat_of_ahead _ _ ahead, if_pos rfl]
  rwa [Option.map_map] at whole

theorem codeTrial_finds_decimal {c : Cursor} (decimal : ∀ r, c.rest ≠ 'x' :: r) :
    codeTrial.Finds c ((digitsAndSemicolon? Char.isDigit c.rest).map fun n => (.charRef, n)) := by
  refine (digitsTrial_finds Char.isDigit c).congr fun marks => ?_
  rw [codeTrial, run_eat_of_ne _ _ decimal]
  rfl

theorem referenceTrial_finds_code {c : Cursor} {r : List Char} (ahead : c.rest = '&' :: '#' :: r)
    {found : Option (Kind × Nat)} (h : codeTrial.Finds (c.forward 2) found) :
    referenceTrial.Finds c (found.map fun (k, n) => (k, 2 + n)) := by
  have sign : (c.forward 1).rest = '#' :: r := Cursor.rest_behind (t := ['&']) ahead
  refine h.behind fun marks => ?_
  rw [referenceTrial, run_eat_of_ahead _ _ ahead, if_pos rfl, run_eat_of_ahead _ _ sign, if_pos rfl,
    Cursor.forward_forward]

theorem referenceTrial_finds_name {c : Cursor} {r : List Char} (ahead : c.rest = '&' :: r)
    (named : ∀ t, r ≠ '#' :: t) {found : Option (Kind × Nat)}
    (h : (nameTrial entityNames).Finds (c.forward 1) found) :
    referenceTrial.Finds c (found.map fun (k, n) => (k, 1 + n)) := by
  have next : (c.forward 1).rest = r := Cursor.rest_behind (t := ['&']) ahead
  refine h.behind fun marks => ?_
  rw [referenceTrial, run_eat_of_ahead _ _ ahead, if_pos rfl, run_eat_of_ne _ _ (next ▸ named)]
  rfl

/-- Reading step by step and looking ahead find the same. -/
theorem referenceTrial_finds (c : Cursor) : referenceTrial.Finds c (reference? c.rest) := by
  generalize ahead : c.rest = input
  fun_cases reference? input with
  | case1 r =>
      have next : (c.forward 2).rest = 'x' :: r := Cursor.rest_behind (t := ['&', '#']) ahead
      have found := referenceTrial_finds_code ahead (codeTrial_finds_hexadecimal next)
      simpa only [Option.map_map, Function.comp_def, ← Nat.add_assoc] using found
  | case2 r decimal =>
      have next : (c.forward 2).rest = r := Cursor.rest_behind (t := ['&', '#']) ahead
      have found := referenceTrial_finds_code ahead (codeTrial_finds_decimal (next ▸ decimal))
      rwa [Option.map_map, next] at found
  | case3 r _ named =>
      have next : (c.forward 1).rest = r := Cursor.rest_behind (t := ['&']) ahead
      have found := referenceTrial_finds_name ahead named
        (nameTrial_finds entityNames (c.forward 1))
      rwa [Option.map_map, next] at found
  | case4 _ _ _ other =>
      intro marks
      refine ⟨c, ?_⟩
      rw [referenceTrial, run_eat_of_ne _ _ (ahead ▸ other)]
      rfl

theorem referenceReader_run (c : Cursor) (marks : List Cursor) :
    referenceReader.run ⟨c, marks⟩ = ((reference? c.rest).map Prod.fst,
      ⟨c.forward ((reference? c.rest).elim 0 Prod.snd), marks⟩) :=
  (referenceTrial_finds c).attempt marks

/-! ### What is read -/

/-- What may be given at a cursor, and where the cursor stands then. -/
structure ReadsReference (c : Cursor) (given : Option Kind) (d : Cursor) : Prop where
  found : given.isSome = true ↔ ∃ w, w <+: c.rest ∧ (EntityRef w ∨ CharRef w)
  single : ∀ v w, v <+: c.rest → w <+: c.rest → EntityRef v ∨ CharRef v →
    EntityRef w ∨ CharRef w → v = w
  entity : ∀ w r, c.rest = w ++ r → EntityRef w →
    given = some .entityRef ∧ d = ⟨w.reverse ++ c.before, r, c.place.after w⟩
  char : ∀ w r, c.rest = w ++ r → CharRef w →
    given = some .charRef ∧ d = ⟨w.reverse ++ c.before, r, c.place.after w⟩
  unmoved : given = none → d = c

theorem isSome_reference?_iff (input : List Char) :
    (reference? input).isSome = true ↔ ∃ w, w <+: input ∧ (EntityRef w ∨ CharRef w) := by
  rw [Option.isSome_iff_ne_none, ne_eq, reference?_eq_none_iff]
  simp only [Unreferenced, not_forall, not_not, and_comm, exists_prop]

/-- A whole reference ahead is what is read. -/
theorem reference?_at {c : Cursor} {k : Kind} {w r : List Char} (split : c.rest = w ++ r)
    (valid : Reference k w) :
    (reference? c.rest).map Prod.fst = some k ∧
      c.forward ((reference? c.rest).elim 0 Prod.snd) =
        ⟨w.reverse ++ c.before, r, c.place.after w⟩ := by
  rw [split, reference?_append valid r]
  exact ⟨rfl, Cursor.forward_of_split split⟩

theorem reference?_readsReference (c : Cursor) :
    ReadsReference c ((reference? c.rest).map Prod.fst)
      (c.forward ((reference? c.rest).elim 0 Prod.snd)) where
  found := by rw [Option.isSome_map, isSome_reference?_iff]
  single _ _ ahead ahead' form form' := reference_unique form form' ahead ahead'
  entity _ _ split form := reference?_at split (.inl ⟨rfl, form⟩)
  char _ _ split form := reference?_at split (.inr ⟨rfl, form⟩)
  unmoved missing := by
    rw [Option.map_eq_none_iff.mp missing]
    rfl

/-- At every cursor the scanner reads what the attempt reads, one whole reference or nothing. Where
the cursor stands in a text, so does a pointer that knows nothing but its place. -/
theorem referenceReader_reads (c : Cursor) (marks : List Cursor) :
    ∃ given d, referenceReader.run ⟨c, marks⟩ = (given, ⟨d, marks⟩) ∧
      given = (reference? c.rest).map Prod.fst ∧
      d = c.forward ((reference? c.rest).elim 0 Prod.snd) ∧
      ReadsReference c given d ∧
      ∀ text, Marked.In text ⟨c, marks⟩ →
        referenceReader.follow? (Marked.pointed text ⟨c, marks⟩) =
          some (given, Marked.pointed text ⟨d, marks⟩) := by
  have ran := referenceReader_run c marks
  refine ⟨_, _, ran, rfl, rfl, reference?_readsReference c, fun text inside => ?_⟩
  rw [referenceReader.follow?_eq inside, ran]

/-- Without its semicolon a name is read in vain. -/
theorem referenceReader_reads_undone :
    (referenceTrial.run ⟨.ofText "&quot x", []⟩).2.cursor.place = ⟨5, 1, 6⟩ ∧
      referenceReader.run ⟨.ofText "&quot x", []⟩ = (none, ⟨.ofText "&quot x", []⟩) ∧
      (referenceReader.run ⟨.ofText "&#x1F;\n", []⟩).2.cursor =
        ⟨['&', '#', 'x', '1', 'F', ';'].reverse, ['\n'], ⟨6, 1, 7⟩⟩ := by
  refine ⟨by decide, ?_, ?_⟩
  · obtain ⟨given, d, ran, nothing, -, reads, -⟩ := referenceReader_reads (.ofText "&quot x") []
    have missing : given = none := nothing.trans (by decide)
    rw [ran, reads.unmoved missing, missing]
  · obtain ⟨given, d, ran, -, -, reads, -⟩ := referenceReader_reads (.ofText "&#x1F;\n") []
    have read := reads.char ['&', '#', 'x', '1', 'F', ';'] ['\n'] (by decide)
      (.inr ⟨['1', 'F'], ⟨by decide, by simp [isHexDigit]⟩, rfl⟩)
    rw [ran]
    exact read.2.trans rfl

end Scan

end QueryScan
