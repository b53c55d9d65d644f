import QueryScan.Proofs.Dispatching

/-! Progress. A rule that applies reads at least one character of the text, or ends the scan with an
error; only the end of the text is read from nothing, and a recognizer that gives none has moved
nothing. So every loop of the scanner ends, after no more passes than there are characters ahead,
and there are no more tokens than characters. -/
namespace QueryScan

/-! ### Loops -/

section

variable {σ α : Type}

/-- From the state `s` the loop ends with `a`, and at most `n` passes go on before that. -/
inductive EndsWithin (pass : σ → σ ⊕ α) : Nat → σ → α → Prop
  | done {n s a} : pass s = .inr a → EndsWithin pass n s a
  | again {n s t a} : pass s = .inl t → EndsWithin pass n t a → EndsWithin pass (n + 1) s a

/-- `result` is what repeated passes come to, and a pass that goes on leaves a smaller state. -/
structure Loop (pass : σ → σ ⊕ α) (size : σ → Nat) (result : σ → α) : Prop where
  unfolds : ∀ s, result s = (pass s).elim result id
  shrinks : ∀ s t, pass s = .inl t → size t < size s

variable {pass : σ → σ ⊕ α} {size : σ → Nat} {result : σ → α}

theorem Loop.done (h : Loop pass size result) {n : Nat} {s : σ} {a : α}
    (passed : pass s = .inr a) : EndsWithin pass n s (result s) := by
  have same : result s = a := by
    rw [h.unfolds s, passed]
    rfl
  rw [same]
  exact .done passed

theorem Loop.again (h : Loop pass size result) {n : Nat} {s t : σ} (passed : pass s = .inl t)
    (later : EndsWithin pass n t (result t)) : EndsWithin pass (n + 1) s (result s) := by
  have same : result s = result t := by
    rw [h.unfolds s, passed]
    rfl
  rw [same]
  exact .again passed later

theorem Loop.endsWithin (h : Loop pass size result) {n : Nat} {s : σ} (le : size s ≤ n) :
    EndsWithin pass n s (result s) := by
  induction n generalizing s with
  | zero =>
      cases passed : pass s with
      | inl t => exact absurd (h.shrinks s t passed) (by omega)
      | inr a => exact h.done passed
  | succ n ih =>
      cases passed : pass s with
      | inl t =>
          have less := h.shrinks s t passed
          exact h.again passed (ih (by omega))
      | inr a => exact h.done passed

theorem Loop.ends (h : Loop pass size result) (s : σ) : EndsWithin pass (size s) s (result s) :=
  h.endsWithin (Nat.le_refl (size s))

end

/-! ### The loops of the rules -/

namespace Text

def runPass (p : Char → Bool) : Nat × List Char → (Nat × List Char) ⊕ Nat
  | (n, c :: r) => if p c then .inl (n + 1, r) else .inr n
  | (n, []) => .inr n

theorem runLoop (p : Char → Bool) :
    Loop (runPass p) (fun s => s.2.length) fun s => s.1 + run p s.2 := by
  constructor
  · rintro ⟨n, cs⟩
    cases cs with
    | nil => rfl
    | cons c r =>
        cases member : p c with
        | true => simp [runPass, member, run_cons_of_pos r member]; omega
        | false => simp [runPass, member, run_cons_of_neg r member]
  · rintro ⟨n, cs⟩ t passed
    cases cs with
    | nil => cases passed
    | cons c r =>
        simp only [runPass] at passed
        split at passed
        · cases passed
          exact Nat.lt_succ_self r.length
        · cases passed

/-- One place where the mark is looked for. -/
def findPass (mark : List Char) : Nat × List Char → (Nat × List Char) ⊕ Option Nat
  | (n, []) => .inr (if mark.isEmpty then some n else none)
  | (n, c :: r) => if mark.isPrefixOf (c :: r) then .inr (some n) else .inl (n + 1, r)

theorem findLoop (mark : List Char) :
    Loop (findPass mark) (fun s => s.2.length) fun s => find?.go mark s.1 s.2 := by
  constructor
  · rintro ⟨n, cs⟩
    cases cs with
    | nil => rfl
    | cons c r =>
        simp only [findPass, find?.go]
        split <;> rfl
  · rintro ⟨n, cs⟩ t passed
    cases cs with
    | nil => cases passed
    | cons c r =>
        simp only [findPass] at passed
        split at passed
        · cases passed
        · cases passed
          exact Nat.lt_succ_self r.length

end Text

namespace Scan

/-- One mark or character inside a comment. -/
def commentPass : Nat × Nat × List Char → (Nat × Nat × List Char) ⊕ Option Nat
  | (depth, read, '(' :: ':' :: r) => .inl (depth + 1, read + 2, r)
  | (0, read, ':' :: ')' :: _) => .inr (some (read + 2))
  | (depth + 1, read, ':' :: ')' :: r) => .inl (depth, read + 2, r)
  | (depth, read, _ :: r) => .inl (depth, read + 1, r)
  | (_, _, []) => .inr none

theorem commentLoop :
    Loop commentPass (fun s => s.2.2.length) fun s => commentRest s.1 s.2.1 s.2.2 := by
  constructor
  · intro s
    fun_cases commentPass s with
    | case1 depth read r => rfl
    | case2 read r => rfl
    | case3 depth read r => rfl
    | case4 depth read c r notOpen notClosed notClose =>
        refine commentRest_char depth read ?_ ?_
        · intro same head
          obtain ⟨t, rfl⟩ := List.head?_eq_some_iff.mp head
          exact notOpen t same rfl
        · intro same head
          obtain ⟨t, rfl⟩ := List.head?_eq_some_iff.mp head
          cases depth with
          | zero => exact notClosed t rfl same rfl
          | succ depth => exact notClose depth t rfl same rfl
    | case5 depth read => rfl
  · intro s t
    fun_cases commentPass s <;> intro passed <;> cases passed <;> simp only [List.length_cons] <;>
      omega

/-- One character or the closing mark inside an XML comment. -/
def xmlCommentPass : Nat × List Char → (Nat × List Char) ⊕ Step
  | (read, '-' :: '-' :: '>' :: _) => .inr (.token .comment (read + 3))
  | (read, '-' :: '-' :: _) => .inr (.fault (.noViable (read + 1) '-'))
  | (read, _ :: r) => .inl (read + 1, r)
  | (_, []) => .inr (.fault (.unterminated .xmlComment))

theorem xmlCommentLoop :
    Loop xmlCommentPass (fun s => s.2.length) fun s => xmlCommentRest s.1 s.2 := by
  constructor
  · intro s
    fun_cases xmlCommentPass s <;> simp_all [xmlCommentRest]
  · intro s t
    fun_cases xmlCommentPass s <;> intro passed <;> cases passed
    simp

/-- One character, doubled delimiter or reference inside a string literal. -/
def stringPass (d : Char) : Nat × List Char → (Nat × List Char) ⊕ Step
  | (_, []) => .inr (.fault (.unterminated .string))
  | (read, c :: r) =>
    if c = d then
      match r with
      | e :: s => if e = d then .inl (read + 2, s) else .inr (.token .string (read + 1))
      | [] => .inr (.token .string (read + 1))
    else if c = '&' then
      match reference? (c :: r) with
      | some (_, length) => .inl (read + length, r.drop (length - 1))
      | none => .inr (.fault (.malformedReference read (referenceLook r)))
    else .inl (read + 1, r)

theorem stringLoop (d : Char) :
    Loop (stringPass d) (fun s => s.2.length) fun s => stringRest d s.1 s.2 := by
  constructor
  · intro s
    fun_cases stringPass d s <;> rw [stringRest.eq_def] <;> simp_all
  · intro s t
    fun_cases stringPass d s <;> intro passed <;> cases passed <;>
      simp only [List.length_cons, List.length_drop] <;> omega

/-- On every input each loop in a rule ends, after no more passes than the input has characters. -/
structure LoopsEnd (input : List Char) : Prop where
  run : ∀ p n, EndsWithin (Text.runPass p) input.length (n, input) (n + Text.run p input)
  find : ∀ mark n,
    EndsWithin (Text.findPass mark) input.length (n, input) (Text.find?.go mark n input)
  comment : ∀ depth read,
    EndsWithin commentPass input.length (depth, read, input) (commentRest depth read input)
  xmlComment : ∀ read,
    EndsWithin xmlCommentPass input.length (read, input) (xmlCommentRest read input)
  string : ∀ d read, EndsWithin (stringPass d) input.length (read, input) (stringRest d read input)

theorem loopsEnd (input : List Char) : LoopsEnd input where
  run p n := (Text.runLoop p).ends (n, input)
  find mark n := (Text.findLoop mark).ends (n, input)
  comment depth read := commentLoop.ends (depth, read, input)
  xmlComment read := xmlCommentLoop.ends (read, input)
  string d read := (stringLoop d).ends (read, input)

end Scan

/-! ### One dispatch -/

/-- `d` stands behind `c`, with at least one character between them. -/
structure Cursor.Advanced (c d : Cursor) : Prop where
  between : ∃ w, w ≠ [] ∧ c.rest = w ++ d.rest
  offset : c.place.offset < d.place.offset

theorem Cursor.advanced_forward {c : Cursor} {w r : List Char} (split : c.rest = w ++ r)
    (ne : w ≠ []) : c.Advanced (c.forward w.length) := by
  obtain ⟨x, t, rfl⟩ := List.exists_cons_of_ne_nil ne
  constructor
  · refine ⟨x :: t, ne, ?_⟩
    rw [Cursor.forward_rest, split, List.drop_left]
  · rw [Cursor.forward_place, Place.offset_after, split, List.take_left, Text.byteLength_cons]
    have := x.utf8Size_pos
    omega

/-- What the step at the cursor does to it. -/
structure Cursor.Progress (c : Cursor) (m : Mode) : Prop where
  token : ∀ k n, Scan.step m c.rest = .token k n → k ≠ .eof → c.Advanced (c.forward n)
  skip : ∀ n, Scan.step m c.rest = .skip n → c.Advanced (c.forward n)
  ended : ∀ n, Scan.step m c.rest = .token .eof n → c.rest = [] ∧ c.forward n = c

theorem Cursor.progress (c : Cursor) (m : Mode) : c.Progress m := by
  constructor
  · intro k n found more
    obtain ⟨w, r, split, rfl, ne⟩ := Scan.step_token_split found more
    exact Cursor.advanced_forward split ne
  · intro n found
    obtain ⟨w, r, split, rfl, ne⟩ := Scan.step_skip_split found
    exact Cursor.advanced_forward split ne
  · intro n found
    obtain ⟨ended, rfl⟩ := Scan.step_eof found
    exact ⟨ended, rfl⟩

/-- A dispatch at the cursor, with one cursor for all recognizers. -/
structure Cursor.Dispatches (c : Cursor) (m : Mode) (pragma : Option Place) : Prop where
  /-- It takes the step that is told from the text ahead. -/
  step : ∀ marks, (dispatch m pragma).run ⟨c, marks⟩ =
    ((Scan.step m c.rest).verdict c pragma, ⟨c.forward ((Scan.step m c.rest).reach c.rest), marks⟩)
  /-- So does a pointer that knows nothing but its place. -/
  pointed : ∀ text marks, Marked.In text ⟨c, marks⟩ →
    (dispatch m pragma).follow? (Marked.pointed text ⟨c, marks⟩) =
      some ((Scan.step m c.rest).verdict c pragma,
        Marked.pointed text ⟨c.forward ((Scan.step m c.rest).reach c.rest), marks⟩)
  advanced : ∀ marks o s, (dispatch m pragma).run ⟨c, marks⟩ = (o, s) → (∀ e, o ≠ .failed e) →
    o ≠ .token .eof → c.Advanced s.cursor
  ended : ∀ marks s, (dispatch m pragma).run ⟨c, marks⟩ = (.token .eof, s) →
    c.rest = [] ∧ s = ⟨c, marks⟩
  /-- A recognizer that gives none leaves the cursor where it was. -/
  unmatched : ∀ x r, c.rest = x :: r →
    ∀ reader ∈ recognizers m pragma (Recognizer.start c) x, ∀ marks,
      (reader.run ⟨c, marks⟩).1 = none → (reader.run ⟨c, marks⟩).2 = ⟨c, marks⟩
  /-- Where none matches nothing is read. -/
  refused : ∀ x r, c.rest = x :: r → ∀ marks,
    (∀ reader ∈ recognizers m pragma (Recognizer.start c) x, (reader.run ⟨c, marks⟩).1 = none) →
      (dispatch m pragma).run ⟨c, marks⟩ =
        (.failed ((Fault.noViable 0 x).locate c pragma), ⟨c, marks⟩)

theorem Cursor.dispatches (c : Cursor) (m : Mode) (pragma : Option Place) :
    c.Dispatches m pragma := by
  have step : ∀ marks, (dispatch m pragma).run ⟨c, marks⟩ = _ := dispatch_settles c m pragma
  have progress := c.progress m
  constructor
  · exact step
  · intro text marks inside
    rw [(dispatch m pragma).follow?_eq inside, step marks]
  · intro marks o s ran sound more
    obtain ⟨rfl, rfl⟩ := Prod.mk.inj ((step marks).symm.trans ran)
    cases found : Scan.step m c.rest with
    | token kind n =>
        rw [found] at more
        exact progress.token kind n found fun eof => more (congrArg Verdict.token eof)
    | skip n => exact progress.skip n found
    | fault cause =>
        rw [found] at sound
        exact absurd rfl (sound _)
  · intro marks s ran
    obtain ⟨eof, rfl⟩ := Prod.mk.inj ((step marks).symm.trans ran)
    cases found : Scan.step m c.rest with
    | token kind n =>
        rw [found] at eof
        obtain rfl := Verdict.token.inj eof
        obtain ⟨last, unmoved⟩ := progress.ended n found
        exact ⟨last, congrArg (Marked.mk · marks) unmoved⟩
    | skip n =>
        rw [found] at eof
        cases eof
    | fault cause =>
        rw [found] at eof
        cases eof
  · intro x r ahead reader member marks unmatched
    exact congrArg Prod.snd (recognizer_unmatched ahead member unmatched marks)
  · intro x r ahead marks unmatched
    exact dispatch_refused ahead
      (fun reader member => recognizer_unmatched ahead member (unmatched reader member)) marks

namespace Scanner

/-! ### Calls and sequences of tokens -/

/-- One dispatch of the next call. -/
def settlePass (m : Mode) (c : Cursor) : Cursor ⊕ (Cursor × Except Fault (Kind × Nat)) :=
  match Scan.step m c.rest with
  | .skip n => .inl (c.forward n)
  | .token kind length => .inr (c, .ok (kind, length))
  | .fault cause => .inr (c, .error cause)

theorem settleLoop (m : Mode) : Loop (settlePass m) (fun c => c.rest.length) (settle m) := by
  constructor
  · intro c
    rw [settle_unfold]
    fun_cases settlePass m c with
    | case1 n found => rw [found]; rfl
    | case2 kind length found => rw [found]; rfl
    | case3 cause found => rw [found]; rfl
  · intro c d
    fun_cases settlePass m c with
    | case1 n found =>
        intro passed
        cases passed
        have := Scan.pos_of_step_eq_skip found
        rw [Cursor.length_rest_forward]
        omega
    | case2 kind length found => nofun
    | case3 cause found => nofun

/-- One token of the sequence of tokens. -/
def collectPass (s : Scanner × Array Token) :
    (Scanner × Array Token) ⊕ (Array Token × Option LexError × Scanner) :=
  match s.1.pull with
  | (some (.ok t), s') => .inl (s', s.2.push t)
  | (some (.error e), s') => .inr (s.2, some e, s')
  | (none, s') => .inr (s.2, none, s')

theorem collectLoop :
    Loop collectPass (fun s => s.1.cursor.rest.length) fun s => s.1.collect s.2 := by
  constructor
  · intro s
    rw [collect_unfold]
    fun_cases collectPass s with
    | case1 t s' pulled => rw [pulled]; rfl
    | case2 e s' pulled => rw [pulled]; rfl
    | case3 s' pulled => rw [pulled]; rfl
  · intro s t
    fun_cases collectPass s with
    | case1 token s' pulled =>
        intro passed
        cases passed
        exact length_rest_lt_of_pull pulled
    | case2 e s' pulled => nofun
    | case3 s' pulled => nofun

theorem size_collect_le (s : Scanner) (read : Array Token) :
    (s.collect read).1.size ≤ read.size + s.cursor.rest.length := by
  fun_induction collect s read with
  | case1 s read t s' pulled ih =>
      have less := length_rest_lt_of_pull pulled
      rw [Array.size_push] at ih
      omega
  | case2 s read e s' pulled => exact Nat.le_add_right _ _
  | case3 s read s' pulled => exact Nat.le_add_right _ _

/-- The loops over the text ahead of a scanner end, and what they give is bounded by that text. -/
structure Bounded (s : Scanner) (source : String) : Prop where
  ahead : s.cursor.rest.length ≤ source.length
  settles : ∀ m, EndsWithin (settlePass m) s.cursor.rest.length s.cursor (settle m s.cursor)
  collects : EndsWithin collectPass s.cursor.rest.length (s, #[]) s.collect
  tokens : s.collect.1.size ≤ s.cursor.rest.length

theorem bounded {s : Scanner} {source : String} (placed : s.cursor.In source.toList) :
    s.Bounded source := by
  refine ⟨?_, fun m => (settleLoop m).ends s.cursor, collectLoop.ends (s, #[]), ?_⟩
  · have whole := congrArg List.length placed.source
    rw [Cursor.source, List.length_append, String.length_toList] at whole
    omega
  · have le := s.size_collect_le #[]
    rwa [Array.size_empty, Nat.zero_add] at le

/-- Wherever a session has come to, each dispatch reads some of the text, ends at its end, or fails;
the loops end, tokens are not empty, and there are no more of them than characters. -/
theorem session_progress (source : String) (start : Mode) (actions : List Action) :
    (∀ (c : Cursor) (m : Mode) (pragma : Option Place), c.Progress m ∧ c.Dispatches m pragma) ∧
      (∀ input, Scan.LoopsEnd input) ∧
      ((Scanner.ofText source start).after actions).Bounded source ∧
      (∀ r ∈ (Scanner.ofText source start).readings actions,
        r.token.kind ≠ .eof → r.token.text ≠ "") ∧
      ∀ ts, (Scanner.ofText source start).tokenize = .ok ts → ts.length ≤ source.length := by
  refine ⟨fun c m pragma => ⟨c.progress m, c.dispatches m pragma⟩, Scan.loopsEnd,
    bounded (after_placed (.ofText source) actions), ?_, ?_⟩
  · refine forall_readings ?_ (Scanner.ofText source start) actions
    intro s t s' called more empty
    obtain ⟨gap, gives⟩ := gives_of_next called
    refine gives.text_ne_nil ?_ (by rw [show t.text = "" from empty]; rfl)
    simpa [Token.isEof] using more
  · intro ts tokens
    have bound := bounded (s := .ofText source start) (.ofText source)
    unfold tokenize at tokens
    split at tokens
    · next read s' collected =>
        cases tokens
        have le := bound.tokens
        rw [collected] at le
        exact Nat.le_trans le bound.ahead
    · cases tokens

/-- A letter and a comment: the letter is the only token, and the comment counts for none. -/
theorem session_progress_letter :
    ∃ t, (Scanner.ofText "x(::)").tokenize = .ok [t] ∧
      ⟨{}, t⟩ ∈ (Scanner.ofText "x(::)").readings [.next] ∧ t.kind ≠ .eof ∧ t.text ≠ "" ∧
      [t].length ≤ "x(::)".length := by
  have called := next_of_token (s := Scanner.ofText "x(::)") rfl (settle_of_token rfl)
  have member : ⟨{}, tokenAt (.ofText "x(::)") .name 1⟩ ∈
      (Scanner.ofText "x(::)").readings [.next] := by
    simp only [readings, act, called]
    exact List.mem_cons_self
  have tokens : (Scanner.ofText "x(::)").tokenize = .ok [tokenAt (.ofText "x(::)") .name 1] := by
    refine tokenize_eq_ok_iff.mpr (.more (pull_of_token rfl called rfl) ?_)
    have passed : Scan.step {} "(::)".toList = .skip 4 := rfl
    have settled : settle {} ((Cursor.ofText "x(::)").forward 1) =
        (((Cursor.ofText "x(::)").forward 1).forward 4, .ok (.eof, 0)) :=
      (settle_of_skip passed).trans (settle_of_token rfl)
    exact .done (pull_of_eof rfl (next_of_token rfl settled) rfl)
  have kind : Kind.name ≠ .eof := by decide
  obtain ⟨-, -, -, nonempty, bound⟩ := session_progress "x(::)" {} [.next]
  exact ⟨_, tokens, member, kind, nonempty _ member kind, bound _ tokens⟩

end Scanner

end QueryScan
