import QueryScan.Command.Tokens
import QueryScan.Proofs.Outcomes

/-! Explicit blanks. To make blanks tokens adds those tokens and changes nothing else: the scanner
that passes over blanks takes fewer calls, but with the blanks dropped both give the same tokens and
come to the same end. That holds in every mode, also where blanks are text or part of a pragma. -/
namespace QueryScan

open Scan
open Text (run)
open Unicode (isBlank)

/-- What the step is where blanks are passed over. -/
def Step.quiet : Step → Step
  | .token .blank n => .skip n
  | s => s

theorem Step.quiet_eq {s : Step} (h : ∀ n, s ≠ .token .blank n) : s.quiet = s := by
  unfold quiet
  split
  · exact absurd rfl (h _)
  · rfl

def Mode.quiet (m : Mode) : Mode :=
  m.change (.blanks false)

theorem Mode.quiet_onToken (m : Mode) (k : Kind) : (m.onToken k).quiet = m.quiet.onToken k := by
  rcases m with ⟨context, pragma, blanks, strings⟩
  cases k with
  | symbol sign => cases sign <;> cases context <;> rfl
  | _ => rfl

namespace Scan

variable (m : Mode)

/-- The rules that look away from whether blanks are explicit: all but that of blanks. -/
def indifferent : List Rule :=
  rules.take 18 ++ rules.drop 19

theorem rule_quiet {rule : Rule} (member : rule ∈ indifferent) (input : List Char) :
    rule m.quiet input = rule m input := by
  simp only [indifferent, rules, List.take_succ_cons, List.take_zero, List.drop_succ_cons,
    List.drop_zero, List.cons_append, List.nil_append, List.mem_cons, List.not_mem_nil,
    or_false] at member
  rcases member with rfl | rfl | rfl | rfl | rfl | rfl | rfl | rfl | rfl | rfl | rfl | rfl | rfl |
    rfl | rfl | rfl | rfl | rfl | rfl | rfl <;> rfl

theorem findSome?_quiet (candidates : List Rule) (subset : ∀ rule ∈ candidates, rule ∈ indifferent)
    (input : List Char) :
    (candidates.findSome? fun rule => rule m.quiet input) =
      candidates.findSome? fun rule => rule m input := by
  induction candidates with
  | nil => rfl
  | cons rule candidates ih =>
      have rest := ih fun other member => subset other (List.mem_cons_of_mem rule member)
      rw [List.findSome?_cons, List.findSome?_cons, rule_quiet m (subset rule List.mem_cons_self),
        rest]

theorem step_quiet_ne_blank (input : List Char) (n : Nat) :
    step m.quiet input ≠ .token .blank n := by
  intro found
  have permitted := step_permitted m.quiet input
  rw [found] at permitted
  cases permitted

theorem blankRule_quiet (c : Char) (r : List Char) :
    blankRule m.quiet (c :: r) = (blankRule m (c :: r)).map Step.quiet := by
  by_cases here : (!m.pragma && isBlank c) = true
  · have fires : ∀ b, blankRule (m.change (.blanks b)) (c :: r) =
        some (if b then .token .blank (run isBlank (c :: r))
          else .skip (run isBlank (c :: r))) := by
      intro b
      exact if_pos here
    refine (fires false).trans ?_
    rw [show m = m.change (.blanks m.blanks) from rfl, fires m.blanks]
    cases m.blanks <;> rfl
  · have silent : ∀ b, blankRule (m.change (.blanks b)) (c :: r) = none := by
      intro b
      exact if_neg here
    refine (silent false).trans ?_
    rw [show m = m.change (.blanks m.blanks) from rfl, silent m.blanks]
    rfl

/-- The step at blanks is the only one that changes. -/
theorem step_quiet (input : List Char) : step m.quiet input = (step m input).quiet := by
  have unchanged : step m.quiet input = step m input →
      step m.quiet input = (step m input).quiet := by
    intro same
    rw [← same, Step.quiet_eq (step_quiet_ne_blank m input)]
  cases input with
  | nil => exact unchanged rfl
  | cons c r =>
      have order : rules = rules.take 18 ++ blankRule :: rules.drop 19 := rfl
      have early := findSome?_quiet m (rules.take 18)
        (fun rule member => List.mem_append_left _ member) (c :: r)
      have late := findSome?_quiet m (rules.drop 19)
        (fun rule member => List.mem_append_right _ member) (c :: r)
      have blank := blankRule_quiet m c r
      rw [step_cons, step_cons, order, firstOf_append, firstOf_append, early] at unchanged ⊢
      cases found : (rules.take 18).findSome? fun rule => rule m (c :: r) with
      | some s =>
          rw [found] at unchanged
          exact unchanged rfl
      | none =>
          -- No earlier rule applies, so blanks ahead are left to their own rule.
          cases fires : blankRule m (c :: r) with
          | some s =>
              rw [fires] at blank
              rw [Option.getD_none, Option.getD_none, firstOf_of_some fires, firstOf_of_some blank]
          | none =>
              rw [fires] at blank
              rw [found] at unchanged
              apply unchanged
              rw [Option.getD_none, Option.getD_none, firstOf_of_none fires, firstOf_of_none blank,
                firstOf, firstOf, late]

end Scan

namespace Scanner

/-- The same scanner with blanks passed over from here on. -/
def quiet (s : Scanner) : Scanner :=
  { s with mode := s.mode.quiet }

/-- Blanks that are given out are passed over by the quiet scanner, which goes on behind them. -/
theorem settle_quiet_blank {m : Mode} {c d : Cursor} {n : Nat}
    (h : settle m c = (d, .ok (.blank, n))) : settle m.quiet c = settle m.quiet (d.forward n) := by
  fun_induction settle m c with
  | case1 c k found ih =>
      rw [settle_of_skip (n := k) (by rw [step_quiet, found]; rfl), ih h]
  | case2 c kind k found =>
      cases h
      exact settle_of_skip (by rw [step_quiet, found]; rfl)
  | case3 c cause found => cases h

theorem settle_quiet {m : Mode} {c d : Cursor} {outcome : Except Fault (Kind × Nat)}
    (h : settle m c = (d, outcome)) (solid : ∀ n, outcome ≠ .ok (.blank, n)) :
    settle m.quiet c = (d, outcome) := by
  fun_induction settle m c with
  | case1 c k found ih =>
      rw [settle_of_skip (n := k) (by rw [step_quiet, found]; rfl), ih h]
  | case2 c kind k found =>
      cases h
      apply settle_of_token
      rw [step_quiet, found, Step.quiet_eq]
      intro n same
      cases same
      exact solid k rfl
  | case3 c cause found =>
      cases h
      apply settle_of_fault
      rw [step_quiet, found]
      rfl

theorem next_quiet {s u : Scanner} {result : Except LexError Token} (called : s.next = (result, u))
    (solid : ∀ t, result = .ok t → t.kind ≠ .blank) : s.quiet.next = (result, u.quiet) := by
  cases failed : s.failure with
  | some e =>
      rw [next_of_failure failed] at called
      cases called
      exact next_of_failure failed
  | none =>
      rcases settled : settle s.mode s.cursor with ⟨c, ⟨cause⟩ | ⟨k, n⟩⟩
      · rw [next_of_fault failed settled] at called
        cases called
        exact next_of_fault (s := s.quiet) failed (settle_quiet settled nofun)
      · rw [next_of_token failed settled] at called
        cases called
        have other : ∀ i, (Except.ok (k, n) : Except Fault (Kind × Nat)) ≠ .ok (.blank, i) := by
          intro i same
          cases same
          exact solid _ rfl rfl
        rw [next_of_token (s := s.quiet) failed (settle_quiet settled other)]
        simp only [quiet, Mode.quiet_onToken]

/-- A call may as well start at any cursor that settles at the same point. -/
theorem next_of_settle_eq {s : Scanner} {c : Cursor} (sound : s.failure = none)
    (same : settle s.mode s.cursor = settle s.mode c) : s.next = { s with cursor := c }.next := by
  rcases settled : settle s.mode c with ⟨d, ⟨cause⟩ | ⟨k, n⟩⟩
  · rw [next_of_fault sound (same.trans settled)]
    exact (next_of_fault (s := { s with cursor := c }) sound settled).symm
  · rw [next_of_token sound (same.trans settled)]
    exact (next_of_token (s := { s with cursor := c }) sound settled).symm

theorem next_quiet_blank {s u : Scanner} {t : Token} (called : s.next = (.ok t, u))
    (blank : t.kind = .blank) : s.quiet.next = u.quiet.next := by
  cases failed : s.failure with
  | some e =>
      rw [next_of_failure failed] at called
      cases called
  | none =>
      rcases settled : settle s.mode s.cursor with ⟨c, ⟨cause⟩ | ⟨k, n⟩⟩
      · rw [next_of_fault failed settled] at called
        cases called
      · rw [next_of_token failed settled] at called
        cases called
        cases blank
        exact next_of_settle_eq (s := s.quiet) failed (settle_quiet_blank settled)

/-! ### The sequence of tokens -/

theorem pull_congr {s u : Scanner} (first : s.exhausted = false) (second : u.exhausted = false)
    (same : s.next = u.next) : s.pull = u.pull := by
  simp [pull, first, second, same]

theorem pull_quiet {s u : Scanner} {item : Option (Except LexError Token)}
    (pulled : s.pull = (item, u)) (solid : ∀ t, item = some (.ok t) → t.kind ≠ .blank) :
    s.quiet.pull = (item, u.quiet) := by
  have reply := s.reply_act .pull
  simp only [act, pulled] at reply
  cases reply with
  | spent spent => simp [pull, quiet, spent]
  | pulled fresh called more =>
      refine pull_of_token (s := s.quiet) fresh (next_quiet called ?_) more
      intro t' same
      exact solid t' (congrArg some same)
  | ended fresh called last =>
      refine pull_of_eof (s := s.quiet) fresh (next_quiet called ?_) last
      rintro t' ⟨⟩ blank
      simp [Token.isEof, blank] at last
  | failed fresh called =>
      refine pull_of_error (s := s.quiet) fresh (next_quiet called ?_)
      rintro t' ⟨⟩

theorem pull_quiet_blank {s u : Scanner} {t : Token} (pulled : s.pull = (some (.ok t), u))
    (blank : t.kind = .blank) : s.quiet.pull = u.quiet.pull := by
  have reply := s.reply_act .pull
  simp only [act, pulled] at reply
  cases reply with
  | pulled fresh called more =>
      have later := next_exhausted s
      rw [called] at later
      exact pull_congr fresh (later.trans fresh) (next_quiet_blank called blank)

/-- The quiet run reads the tokens that are not blanks, and ends with the same error or none, at the
same cursor and with the same log. -/
theorem collect_quiet (s : Scanner) (read : Array Token) :
    s.quiet.collect (read.filter (·.kind != .blank)) =
      ((s.collect read).1.filter (·.kind != .blank), (s.collect read).2.1,
        (s.collect read).2.2.quiet) := by
  fun_induction collect s read with
  | case1 s read t u pulled ih =>
      rw [← ih, Array.filter_push]
      by_cases blank : t.kind = .blank
      · rw [if_neg (by simp [blank]), collect_unfold, pull_quiet_blank pulled blank,
          ← collect_unfold]
      · have solid : ∀ t', some (Except.ok t) = some (Except.ok (ε := LexError) t') →
            t'.kind ≠ .blank := by
          rintro t' ⟨⟩
          exact blank
        rw [if_pos (by simp [blank]), collect_unfold, pull_quiet pulled solid]
  | case2 s read e u pulled => rw [collect_unfold, pull_quiet pulled (by rintro t ⟨⟩)]
  | case3 s read u pulled => rw [collect_unfold, pull_quiet pulled (by rintro t ⟨⟩)]

end Scanner

/-! ### Listings -/

theorem Query.tokens_quiet (q : Query) (m : Mode) :
    q.tokens m.quiet = (q.tokens m).map (·.filter (·.kind != .blank)) := by
  have quiet := (Scanner.ofText q.text m).collect_quiet #[]
  rw [Query.tokens, show Scanner.ofText q.text m.quiet = (Scanner.ofText q.text m).quiet from rfl]
  rw [Array.filter_empty] at quiet
  rw [quiet, Query.tokens]
  rcases (Scanner.ofText q.text m).collect with ⟨tokens, _ | e, s⟩
  · simp [Except.map]
  · rfl

namespace Command.TokensRequest

/-- Explicit blanks are asked for by a flag or by the settings; the rest of the mode is the same. -/
theorem mode_quiet (r : TokensRequest) (settings : Settings) (a b : Bool) :
    (mode { r with blanks := b } { settings with blanks := a }).quiet =
      (r.mode settings).quiet := by
  rcases r with ⟨input, format, blanks, noStrings, element, showBlanks, stats⟩
  rcases settings with ⟨explicit, strings, inElement, name, shown, jobs⟩
  cases b <;> cases blanks <;> cases noStrings <;> cases element <;> cases inElement <;> rfl

/-- What the listing shows of a query, where blanks are not shown. -/
theorem shown_tokens (r : TokensRequest) (settings : Settings) (hidden : r.showBlanks = false)
    (plain : settings.showBlanks = false) (q : Query) :
    (q.tokens (r.mode settings)).map (r.shown settings) = q.tokens (r.mode settings).quiet := by
  rw [q.tokens_quiet]
  congr 1
  funext tokens
  simp [shown, hidden, plain]

theorem run_blanks {μ : Type → Type} [Monad μ] (host : Host μ) {r : TokensRequest}
    {settings : Settings} (hidden : r.showBlanks = false) (plain : settings.showBlanks = false)
    (a b : Bool) :
    run host { settings with blanks := a } { r with blanks := b } = run host settings r := by
  have listed : ∀ q : Query,
      (q.tokens (mode { r with blanks := b } { settings with blanks := a })).map
        (r.shown settings) = (q.tokens (r.mode settings)).map (r.shown settings) := by
    intro q
    rw [shown_tokens r settings hidden plain, ← mode_quiet r settings a b]
    exact shown_tokens { r with blanks := b } { settings with blanks := a } hidden plain q
  unfold run
  dsimp only
  cases formatNamed (r.format.getD settings.format) with
  | error failure => rfl
  | ok format =>
      apply bind_congr
      intro text
      cases text with
      | error failure => rfl
      | ok query =>
          have same := listed query
          dsimp only
          generalize query.tokens (mode { r with blanks := b } { settings with blanks := a }) = x,
            query.tokens (r.mode settings) = y at same ⊢
          cases x with
          | error e =>
              cases y with
              | error e' => cases same; rfl
              | ok tokens => cases same
          | ok tokens =>
              cases y with
              | error e => cases same
              | ok tokens' =>
                  exact congrArg (fun shown =>
                    pure ({ output := Listing.render format r.stats shown } : Outcome))
                    (Except.ok.inj same)

/-- A query that can be read and scanned is listed by its tokens, without those that are blanks. -/
theorem run_listed {μ : Type → Type} [Monad μ] [LawfulMonad μ] {host : Host μ} {r : TokensRequest}
    {settings : Settings} (hidden : r.showBlanks = false) (plain : settings.showBlanks = false)
    {format : Listing.Format} (named : formatNamed (r.format.getD settings.format) = .ok format)
    {q : Query} {load : μ Unit} (text : Query.read host r.input = do load; return .ok q)
    {tokens : List Token} (scanned : q.tokens (r.mode settings) = .ok tokens) :
    run host settings r = do
      load
      return { output := Listing.render format r.stats (tokens.filter (·.kind != .blank)) } := by
  have listed : r.shown settings tokens = tokens.filter (·.kind != .blank) := by
    simp [shown, hidden, plain]
  simp only [run, named, text, bind_assoc, pure_bind, scanned, listed]

end Command.TokensRequest

namespace Scanner

/-- With blanks explicit the same tokens come with the blanks between them, and the end is the same:
the same error or none, and the same cursor. So a listing that does not show blanks does not depend
on whether they are explicit: it shows the tokens that are no blanks. -/
theorem explicit_blanks_only_added (source : String) (m : Mode) :
    (Scanner.ofText source (m.change (.blanks false))).collect.1.toList =
        (Scanner.ofText source (m.change (.blanks true))).collect.1.toList.filter
          (·.kind != .blank) ∧
      (Scanner.ofText source (m.change (.blanks false))).collect.2.1 =
        (Scanner.ofText source (m.change (.blanks true))).collect.2.1 ∧
      (Scanner.ofText source (m.change (.blanks false))).collect.2.2.cursor =
        (Scanner.ofText source (m.change (.blanks true))).collect.2.2.cursor ∧
      (∀ (μ : Type → Type) [Monad μ] (host : Host μ) (r : Command.TokensRequest)
        (settings : Settings) (a b : Bool), r.showBlanks = false → settings.showBlanks = false →
          Command.TokensRequest.run host { settings with blanks := a } { r with blanks := b } =
            Command.TokensRequest.run host settings r) ∧
      ∀ (μ : Type → Type) [Monad μ] [LawfulMonad μ] (host : Host μ) (r : Command.TokensRequest)
        (settings : Settings) (a b : Bool), r.showBlanks = false → settings.showBlanks = false →
        ∀ format q load tokens, Command.formatNamed (r.format.getD settings.format) = .ok format →
          Query.read host r.input = (do load; return .ok q) →
          q.tokens (r.mode settings) = .ok tokens →
          Command.TokensRequest.run host { settings with blanks := a } { r with blanks := b } = do
            load
            return { output :=
              Listing.render format r.stats (tokens.filter (·.kind != .blank)) } := by
  have quiet : (Scanner.ofText source (m.change (.blanks false))).collect =
      ((Scanner.ofText source (m.change (.blanks true))).collect.1.filter (·.kind != .blank),
        (Scanner.ofText source (m.change (.blanks true))).collect.2.1,
        (Scanner.ofText source (m.change (.blanks true))).collect.2.2.quiet) :=
    collect_quiet (Scanner.ofText source (m.change (.blanks true))) #[]
  rw [quiet]
  refine ⟨Array.toList_filter, rfl, rfl, ?_, ?_⟩
  · intro μ _ host r settings a b hidden plain
    exact Command.TokensRequest.run_blanks host hidden plain a b
  · intro μ _ _ host r settings a b hidden plain format q load tokens named text scanned
    rw [Command.TokensRequest.run_blanks host hidden plain a b]
    exact Command.TokensRequest.run_listed hidden plain named text scanned

theorem decodeText_toUTF8 (text : String) : decodeText text.toUTF8 = .ok text := by
  have valid : String.fromUTF8? text.toUTF8 = some text := dif_pos text.isValidUTF8
  rw [decodeText, valid]

theorem explicit_blanks_only_added_tag :
    ∃ (mark : Token) (host : Host Id), mark.kind = .symbol .endTag ∧
      (Scanner.ofText " </ " { blanks := false }).collect.1.toList = [mark] ∧
      ({ input := "-" } : Command.TokensRequest).showBlanks = false ∧
      ({} : Settings).showBlanks = false ∧
      Query.read host "-" = .ok ⟨"<stdin>", " </ "⟩ ∧
      Command.TokensRequest.run host { blanks := true } { input := "-" } =
        Command.TokensRequest.run host {} { input := "-" } ∧
      Command.TokensRequest.run host { blanks := true } { input := "-" } =
        { output := Listing.render .text false [mark] } := by
  have explicit : (Scanner.ofText " </ " { blanks := true }).Yields
      [tokenAt (.ofText " </ ") .blank 1,
        tokenAt ((Cursor.ofText " </ ").forward 1) (.symbol .endTag) 2] := by
    refine .more (pull_of_token rfl (next_of_token rfl (settle_of_token rfl)) rfl) ?_
    refine .more (pull_of_token rfl (next_of_token rfl (settle_of_token rfl)) rfl) ?_
    exact .done (pull_of_eof rfl (next_of_token rfl
      ((settle_of_skip rfl).trans (settle_of_token rfl))) rfl)
  obtain ⟨tokens, last, run, list⟩ := explicit.collect #[]
  obtain ⟨same, -, -, unaffected, listing⟩ := explicit_blanks_only_added " </ " {}
  let mark := tokenAt ((Cursor.ofText " </ ").forward 1) (.symbol .endTag) 2
  let host : Host Id :=
    ⟨fun _ => pure false, fun _ => pure (.error .notFound), pure (.ok " </ ".toUTF8)⟩
  have text : Query.read host "-" = .ok ⟨"<stdin>", " </ "⟩ := by
    have input : host.readInputText = pure (.ok " </ ") :=
      congrArg pure (decodeText_toUTF8 " </ ")
    simp only [Query.read, beq_self_eq_true, if_true, input, pure_bind]
    rfl
  have plain : (Scanner.ofText " </ ").Yields [mark] := by
    refine .more (pull_of_token rfl (next_of_token rfl
      ((settle_of_skip rfl).trans (settle_of_token rfl))) rfl) ?_
    exact .done (pull_of_eof rfl (next_of_token rfl
      ((settle_of_skip rfl).trans (settle_of_token rfl))) rfl)
  have scanned : (Query.mk "<stdin>" " </ ").tokens {} = .ok [mark] := by
    obtain ⟨read, s, ran, all⟩ := plain.collect #[]
    have whole : (Scanner.ofText " </ ").collect = (read, none, s) := ran
    rw [Query.tokens, whole]
    exact congrArg Except.ok all
  have shown := listing Id host { input := "-" } {} true false rfl rfl .text
    ⟨"<stdin>", " </ "⟩ (pure ()) [mark] (by decide +kernel) text scanned
  refine ⟨mark, host, rfl, ?_, rfl, rfl, text,
    unaffected Id host { input := "-" } {} true false rfl rfl, shown⟩
  refine same.trans ?_
  change ((Scanner.ofText " </ " { blanks := true }).collect #[]).1.toList.filter _ = _
  rw [run, list]
  rfl

end Scanner

end QueryScan
