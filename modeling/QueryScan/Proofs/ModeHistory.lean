import QueryScan.Proofs.Sessions
import Mathlib.Data.List.Induction

/-! The mode as a record of what was asked for and what was given out. Two things switch modes: the
user of a scanner, and the tokens that it returns. Nothing else leaves a trace, so the mode behind
any request can be told from the history alone, flag by flag. -/
namespace QueryScan

inductive Signal where
  | change (what : ModeChange)
  | token (kind : Kind)
deriving DecidableEq, Repr

namespace Signal

def entered? : Signal → Option Delimiter
  | .change (.enterAttribute d) => some d
  | _ => none

/-- What becomes of element content; none when the signal does not concern it. -/
def element? : Signal → Option Bool
  | .change (.element on) => some on
  | .change (.enterAttribute _) => some false
  | .token (.symbol .leftBrace) | .token (.symbol .endTag) | .token (.symbol .less) => some false
  | _ => none

/-- What becomes of attribute content. Leaving element content does not concern it. -/
def attribute? : Signal → Option Bool
  | .change (.element true) => some false
  | .change (.enterAttribute _) => some true
  | .change .leaveAttribute => some false
  | .token (.symbol .leftBrace) => some false
  | _ => none

/-- The latest word of a history on one matter. -/
def latest {α : Type} (field : Signal → Option α) (history : List Signal) : Option α :=
  history.reverse.findSome? field

theorem latest_concat {α : Type} (field : Signal → Option α) (history : List Signal) (x : Signal) :
    latest field (history ++ [x]) = (field x).or (latest field history) := by
  rw [latest, latest, List.reverse_append, List.reverse_singleton, List.singleton_append,
    List.findSome?_cons]
  cases field x <;> rfl

/-- A signal that switches one content on switches the other one off. -/
theorem contents_apart (x : Signal) :
    (x.element? = some true → x.attribute? = some false) ∧
      (x.attribute? = some true → x.element? = some false) := by
  cases x with
  | change what =>
      cases what with
      | element on => cases on <;> exact ⟨by decide, by decide⟩
      | enterAttribute d => exact ⟨nofun, fun _ => rfl⟩
      | leaveAttribute | blanks | strings => exact ⟨nofun, nofun⟩
  | token kind =>
      cases kind with
      | symbol sign => cases sign <;> exact ⟨by decide, by decide⟩
      | _ => exact ⟨nofun, nofun⟩

/-- However signals follow each other, the latest words never switch both contents on. -/
theorem latest_contents_apart (history : List Signal) :
    ¬ (latest element? history = some true ∧ latest attribute? history = some true) := by
  induction history using List.reverseRecOn with
  | nil => exact fun both => nomatch both.1
  | append_singleton history x ih =>
      rw [latest_concat, latest_concat]
      rintro ⟨between, inValue⟩
      cases element : x.element? with
      | some on =>
          rw [element, Option.some_or] at between
          rw [x.contents_apart.1 (element.trans between)] at inValue
          cases inValue
      | none =>
          cases value : x.attribute? with
          | some on =>
              rw [value, Option.some_or] at inValue
              rw [x.contents_apart.2 (value.trans inValue)] at element
              cases element
          | none =>
              rw [element] at between
              rw [value] at inValue
              exact ih ⟨between, inValue⟩

end Signal

open Signal (latest latest_concat)

namespace Mode

def apply (m : Mode) : Signal → Mode
  | .change what => m.change what
  | .token kind => m.onToken kind

def replay (m : Mode) (history : List Signal) : Mode :=
  history.foldl apply m

theorem replay_append (m : Mode) (first second : List Signal) :
    m.replay (first ++ second) = (m.replay first).replay second :=
  List.foldl_append

theorem replay_concat (m : Mode) (history : List Signal) (x : Signal) :
    m.replay (history ++ [x]) = (m.replay history).apply x := by
  rw [replay_append]
  rfl

/-- A flag that every signal either sets or leaves is set by the latest that concerns it. -/
theorem flag_replay {α : Type} {flag : Mode → α} {field : Signal → Option α}
    (each : ∀ m x, flag (m.apply x) = (field x).getD (flag m)) (m : Mode)
    (history : List Signal) : flag (m.replay history) = (latest field history).getD (flag m) := by
  induction history using List.reverseRecOn with
  | nil => rfl
  | append_singleton history x ih =>
      rw [replay_concat, each, ih, latest_concat]
      cases field x <;> rfl

/-- What a signal makes of the three parts of the context, each told without the other two. -/
theorem content_apply (m : Mode) (x : Signal) :
    (m.apply x).inElement = x.element?.getD m.inElement ∧
      (m.apply x).inAttribute = x.attribute?.getD m.inAttribute ∧
      (m.apply x).delimiter? =
        if (m.apply x).inAttribute then x.entered?.or m.delimiter? else none := by
  rcases m with ⟨context, pragma, blanks, strings⟩
  cases x with
  | change what =>
      cases what with
      | element on => cases on <;> cases context <;> exact ⟨rfl, rfl, rfl⟩
      | enterAttribute | leaveAttribute | blanks | strings =>
          cases context <;> exact ⟨rfl, rfl, rfl⟩
  | token kind =>
      cases kind with
      | symbol sign => cases sign <;> cases context <;> exact ⟨rfl, rfl, rfl⟩
      | _ => cases context <;> exact ⟨rfl, rfl, rfl⟩

theorem inElement_replay (history : List Signal) :
    (({} : Mode).replay history).inElement = (latest Signal.element? history).getD false :=
  flag_replay (fun m x => (content_apply m x).1) {} history

theorem inAttribute_replay (history : List Signal) :
    (({} : Mode).replay history).inAttribute = (latest Signal.attribute? history).getD false :=
  flag_replay (fun m x => (content_apply m x).2.1) {} history

theorem entered_of_delimiter? {history : List Signal} {d : Delimiter}
    (h : (({} : Mode).replay history).delimiter? = some d) :
    latest Signal.entered? history = some d := by
  induction history using List.reverseRecOn with
  | nil => cases h
  | append_singleton history x ih =>
      rw [replay_concat, (content_apply _ x).2.2] at h
      split at h
      · rw [latest_concat]
        cases entered : x.entered? with
        | some e => rwa [entered] at h
        | none =>
            rw [entered] at h
            exact ih h
      · cases h

/-- The delimiter at hand is the one entered last, and there is one in attribute content only. -/
theorem delimiter?_replay (history : List Signal) (d : Delimiter) :
    (({} : Mode).replay history).delimiter? = some d ↔
      (({} : Mode).replay history).inAttribute = true ∧
        latest Signal.entered? history = some d := by
  constructor
  · intro h
    exact ⟨by rw [inAttribute, h]; rfl, entered_of_delimiter? h⟩
  · rintro ⟨inside, entered⟩
    obtain ⟨e, h⟩ := Option.isSome_iff_exists.mp inside
    rwa [← entered, entered_of_delimiter? h]

theorem not_inElement_and_inAttribute (m : Mode) :
    ¬ (m.inElement = true ∧ m.inAttribute = true) := by
  rintro ⟨between, inValue⟩
  rcases m.context_cases with same | same | ⟨d, same⟩
  · simp [inElement, same] at between
  · simp [inAttribute, delimiter?, same] at inValue
  · simp [inElement, same] at between

end Mode

/-! ### Sessions -/

/-- What a request leaves behind in the history: the change it asks for, or the token it gets. -/
def Action.signals (a : Action) (answer : Answer) : List Signal :=
  match a with
  | .change what => [.change what]
  | _ => (answer.token?.map fun t => Signal.token t.kind).toList

namespace Scanner

def signals (s : Scanner) : List Action → List Signal
  | [] => []
  | a :: rest => a.signals (s.act a).1 ++ (s.act a).2.signals rest

theorem next_mode (s : Scanner) :
    s.next.2.mode = s.mode.replay (Action.next.signals (.token s.next.1)) := by
  rcases next_cases s with ⟨e, -, same⟩ | ⟨-, gap, t, s', gives, same⟩ |
    ⟨-, gap, cause, e, s', fails, same⟩
  · rw [same]
    rfl
  · rw [same, gives.after]
    rfl
  · rw [same, fails.after]
    rfl

/-- One request moves the mode by its own signals. The sequence of tokens ends without giving out
the token of the end, which would have changed nothing. -/
theorem Reply.mode {s s' : Scanner} {a : Action} {answer : Answer} (h : s.Reply a answer s') :
    s'.mode = s.mode.replay (a.signals answer) := by
  have behind := next_mode s
  cases h with
  | next called => rwa [called] at behind
  | pulled _ called _ => rwa [called] at behind
  | @ended t s' _ called last =>
      have kind : t.kind = .eof := by simpa [Token.isEof] using last
      rw [called] at behind
      change s'.mode = s.mode.replay [.token t.kind] at behind
      rw [kind] at behind
      exact behind
  | failed _ called => rwa [called] at behind
  | spent | change | errors | takeLog => rfl

theorem after_mode (s : Scanner) (actions : List Action) :
    (s.after actions).mode = s.mode.replay (s.signals actions) := by
  induction actions generalizing s with
  | nil => rfl
  | cons a rest ih => rw [after, ih, signals, Mode.replay_append, (s.reply_act a).mode]

/-- A request that asks for no change and gets at most the token of the end keeps every flag. -/
theorem Reply.mode_eq {s s' : Scanner} {a : Action} {answer : Answer} (h : s.Reply a answer s')
    (asked : ∀ what, a ≠ .change what) (given : ∀ t, answer.token? = some t → t.isEof = true) :
    s'.mode = s.mode := by
  rw [h.mode]
  cases a with
  | change what => exact absurd rfl (asked what)
  | next | pull | errors | takeLog =>
      cases token : answer.token? with
      | none => simp [Action.signals, token, Mode.replay]
      | some t =>
          have kind : t.kind = .eof := by simpa [Token.isEof] using given t token
          simp [Action.signals, token, kind, Mode.replay, Mode.apply, Mode.onToken]

/-- From a mode that was itself built by signals, the mode behind any session is the replay of the
changes asked for and the tokens returned. The flags of the two contents are told by the latest
signal that concerns each; no history switches both on, and the delimiter is the one entered
last. -/
theorem session_modes (source : String) (build : List Signal) (actions : List Action) (s : Scanner)
    (start : s = Scanner.ofText source (({} : Mode).replay build)) :
    (s.after actions).mode = s.mode.replay (s.signals actions) ∧
      (∀ a, (∀ what, a ≠ .change what) →
        (∀ t, ((s.after actions).act a).1.token? = some t → t.isEof = true) →
        ((s.after actions).act a).2.mode = (s.after actions).mode) ∧
      (s.after actions).mode.inElement =
        (latest Signal.element? (build ++ s.signals actions)).getD false ∧
      (s.after actions).mode.inAttribute =
        (latest Signal.attribute? (build ++ s.signals actions)).getD false ∧
      ¬ (latest Signal.element? (build ++ s.signals actions) = some true ∧
        latest Signal.attribute? (build ++ s.signals actions) = some true) ∧
      ¬ ((s.after actions).mode.inElement = true ∧ (s.after actions).mode.inAttribute = true) ∧
      ∀ d, (s.after actions).mode.delimiter? = some d ↔
        (s.after actions).mode.inAttribute = true ∧
          latest Signal.entered? (build ++ s.signals actions) = some d := by
  have fold := s.after_mode actions
  have whole : (s.after actions).mode = ({} : Mode).replay (build ++ s.signals actions) := by
    rw [fold, Mode.replay_append, start]
    rfl
  refine ⟨fold, ?_, ?_, ?_, Signal.latest_contents_apart _, Mode.not_inElement_and_inAttribute _,
    ?_⟩
  · intro a asked given
    exact ((s.after actions).reply_act a).mode_eq asked given
  · rw [whole, Mode.inElement_replay]
  · rw [whole, Mode.inAttribute_replay]
  · intro d
    rw [whole]
    exact Mode.delimiter?_replay _ d

theorem session_modes_value :
    ∃ s, s = Scanner.ofText "(::)<"
        (({} : Mode).replay [.change (.enterAttribute .quot), .token (.symbol .leftBrace)]) ∧
      s.signals [.next, .change (.enterAttribute .apos)] =
        [.token (.symbol .less), .change (.enterAttribute .apos)] ∧
      (s.after [.next, .change (.enterAttribute .apos)]).mode.delimiter? = some .apos := by
  have called := next_of_token (s := Scanner.ofText "(::)<"
    (({} : Mode).replay [.change (.enterAttribute .quot), .token (.symbol .leftBrace)])) rfl
    ((settle_of_skip rfl).trans (settle_of_token rfl))
  have history : (Scanner.ofText "(::)<" (({} : Mode).replay
      [.change (.enterAttribute .quot), .token (.symbol .leftBrace)])).signals
        [.next, .change (.enterAttribute .apos)] =
          [.token (.symbol .less), .change (.enterAttribute .apos)] := by
    simp only [signals, act, called]
    rfl
  obtain ⟨-, -, -, inValue, -, -, delimiter⟩ := session_modes "(::)<"
    [.change (.enterAttribute .quot), .token (.symbol .leftBrace)]
    [.next, .change (.enterAttribute .apos)] _ rfl
  rw [history] at inValue delimiter
  exact ⟨_, rfl, history, (delimiter .apos).mpr ⟨inValue, rfl⟩⟩

end Scanner

end QueryScan
