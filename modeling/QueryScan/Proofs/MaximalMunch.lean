import QueryScan.Proofs.Markup

/-! Outside content and pragmas the first rule that applies reads the longest text. Whatever text
of the grammar stands ahead, the step at hand covers it, or is no token at all. -/
namespace QueryScan

open Grammar
open Unicode
open Text (run)

theorem Step.covers_of_lt {k k' : Kind} {n : Nat} {w : List Char} (h : w.length < n) :
    (Step.token k' n).Covers k w :=
  ⟨Nat.le_of_lt h, fun same => absurd same (by omega)⟩

/-- What covers a text covers every shorter text, whatever its kind. -/
theorem Step.Covers.shorter {s : Step} {k k' : Kind} {v w : List Char} (h : s.Covers k w)
    (short : v.length < w.length) : s.Covers k' v := by
  cases s with
  | token k'' n => exact covers_of_lt (Nat.lt_of_lt_of_le short h.1)
  | skip n => trivial
  | fault cause => trivial

theorem Step.covers_self (k : Kind) (w : List Char) : (Step.token k w.length).Covers k w :=
  ⟨Nat.le_refl _, fun _ => rfl⟩

theorem Symbol.find?_spelling (a : Symbol) :
    (Symbol.all.find? fun s => s.spelling == a.spelling) = some a := by
  cases a <;> rfl

/-- Symbols are told apart by their spelling. -/
theorem Symbol.spelling_injective {a b : Symbol} (h : a.spelling = b.spelling) : a = b := by
  have found := a.find?_spelling
  rw [h, b.find?_spelling] at found
  exact (Option.some.inj found).symm

namespace Scan

/-! ### Symbols -/

/-- No text stands before a longer one. -/
def LongestFirst (table : List (List Char × Symbol)) : Prop :=
  table.Pairwise fun a b => b.1.length ≤ a.1.length

instance (table : List (List Char × Symbol)) : Decidable (LongestFirst table) :=
  inferInstanceAs (Decidable (table.Pairwise fun a b => b.1.length ≤ a.1.length))

theorem LongestFirst.le_of_find? {table : List (List Char × Symbol)}
    {p : List Char × Symbol → Bool} {a b : List Char × Symbol} (sorted : LongestFirst table)
    (found : table.find? p = some a) (member : b ∈ table) (holds : p b = true) :
    b.1.length ≤ a.1.length := by
  obtain ⟨-, before, behind, rfl, none⟩ := List.find?_eq_some_iff_append.mp found
  rcases List.mem_append.mp member with early | late
  · have missed := none b early
    rw [holds] at missed
    contradiction
  · rcases List.mem_cons.mp late with rfl | later
    · exact Nat.le_refl _
    · have tail := (List.pairwise_append.mp sorted).2.1
      exact (List.pairwise_cons.mp tail).1 b later

/-- Among symbols with the longest first, the one that is found covers every other. -/
theorem symbolAmong_covers {table : List (List Char × Symbol)} {sign : Symbol}
    (sorted : LongestFirst table) (spelled : ∀ entry ∈ table, entry.1 = entry.2.spelling)
    (member : sign ∈ table.map Prod.snd) (r : List Char) :
    ∃ s, symbolAmong table (sign.spelling ++ r) = some s ∧
      s.Covers (.symbol sign) sign.spelling := by
  obtain ⟨entry, inTable, rfl⟩ := List.mem_map.mp member
  rw [← spelled entry inTable]
  have ahead : entry.1.isPrefixOf (entry.1 ++ r) = true :=
    List.isPrefixOf_iff_prefix.mpr (List.prefix_append _ _)
  cases found : table.find? fun e => e.1.isPrefixOf (entry.1 ++ r) with
  | none =>
      have missed := List.find?_eq_none.mp found entry inTable
      exact absurd ahead missed
  | some other =>
      refine ⟨.token (.symbol other.2) other.1.length, by simp [symbolAmong, found], ?_, ?_⟩
      · exact sorted.le_of_find? found inTable ahead
      · intro length
        have holds := List.find?_some found
        have shorter := List.prefix_of_prefix_length_le (List.isPrefixOf_iff_prefix.mp holds)
          (List.prefix_append entry.1 r) (Nat.le_of_eq length)
        have text := shorter.eq_of_length length
        rw [spelled other (List.mem_of_find?_eq_some found), spelled entry inTable] at text
        rw [Symbol.spelling_injective text]

/-- The rules for symbols, tried one after another, are one rule for all their symbols. -/
theorem symbolAmong_flatten (tables : List (List (List Char × Symbol))) (input : List Char) :
    symbolAmong tables.flatten input = tables.findSome? fun table => symbolAmong table input := by
  induction tables with
  | nil => rfl
  | cons table tables ih =>
      rw [List.findSome?_cons, ← ih]
      simp only [symbolAmong, List.flatten_cons, List.find?_append]
      cases table.find? fun e => e.1.isPrefixOf input <;> rfl

theorem firstOf_covers {candidates : List Rule} (tables : List (List (List Char × Symbol)))
    {m : Mode} {c : Char} {r t : List Char} {sign : Symbol} (ahead : c :: r = sign.spelling ++ t)
    (same : (candidates.map fun rule => rule m (c :: r)) =
      tables.map fun table => symbolAmong table (c :: r))
    (known : ∀ table ∈ tables, table ∈ symbolTables) (sorted : LongestFirst tables.flatten)
    (member : sign ∈ tables.flatten.map Prod.snd) :
    (firstOf candidates m c r).Covers (.symbol sign) sign.spelling := by
  have spelled : ∀ entry ∈ tables.flatten, entry.1 = entry.2.spelling := by
    intro entry inTables
    obtain ⟨table, inList, inTable⟩ := List.mem_flatten.mp inTables
    exact symbolTables_spelled table (known table inList) entry inTable
  obtain ⟨s, found, covers⟩ := symbolAmong_covers sorted spelled member t
  have first : (candidates.findSome? fun rule => rule m (c :: r)) = some s := by
    calc (candidates.findSome? fun rule => rule m (c :: r))
        = (candidates.map fun rule => rule m (c :: r)).findSome? id := by
          rw [List.findSome?_map]; rfl
      _ = tables.findSome? fun table => symbolAmong table (c :: r) := by
          rw [same, List.findSome?_map]; rfl
      _ = some s := by rw [← symbolAmong_flatten, ahead, found]
  rw [firstOf, first]
  exact covers

theorem markup_length {rule : Rule} {m : Mode} {input : List Char} {k : Kind} {n : Nat}
    (member : rule ∈ [xmlCommentRule, cdataRule, instructionRule])
    (h : rule m input = some (.token k n)) : 2 < n := by
  simp only [List.mem_cons, List.not_mem_nil, or_false] at member
  rcases member with rfl | rfl | rfl
  · unfold xmlCommentRule at h
    split at h
    · obtain ⟨-, body, r, -, rfl, -⟩ := xmlCommentRest_split (Option.some.inj h)
      omega
    · contradiction
  · unfold cdataRule at h
    split at h
    · simp only [Option.some.injEq] at h
      split at h
      · cases h; omega
      · contradiction
    · contradiction
  · unfold instructionRule at h
    split at h
    · next c r =>
        obtain ⟨-, h⟩ := Option.ite_none_right_eq_some.mp h
        have read := Option.some.inj h
        rcases instructionRest_cases (3 + run isNameChar r) (r.drop (run isNameChar r)) with
          ⟨_, found⟩ | ⟨_, -, found⟩ | ⟨_, _, _, -, -, -, found⟩
        · rw [found] at read; contradiction
        · rw [found] at read; cases read; omega
        · rw [found] at read; cases read; omega
    · contradiction

section Expression

variable {m : Mode} (context : m.context = .expression)

include context

theorem symbol_covers_sign {sign : Symbol} (r : List Char)
    (member : sign ∈ [closingMarks, pairs, singles].flatten.map Prod.snd)
    (other : sign ≠ .leftParen) :
    (step m (sign.spelling ++ r)).Covers (.symbol sign) sign.spelling := by
  have lead : sign.spelling.head?.any (fun c => isSign c && !isBlank c &&
      !(['{', '}', '<', '(', '.', '"', '\'', '#'].contains c)) = true := by
    revert sign
    decide
  obtain ⟨c, head, plain⟩ := (Option.any_eq_true _ _).mp lead
  simp only [Bool.and_eq_true, Bool.not_eq_true', List.contains_eq_mem, decide_eq_false_iff_not,
    List.mem_cons, List.not_mem_nil, or_false, not_or] at plain
  obtain ⟨⟨sharp, solid⟩, rest⟩ := plain
  obtain ⟨t, spelling⟩ := List.head?_eq_some_iff.mp head
  have ahead : c :: (t ++ r) = sign.spelling ++ r := by rw [spelling]; rfl
  rw [← ahead, step_sign context _ sharp solid (by simp [rest]) (by simp [rest])]
  refine firstOf_covers [closingMarks, pairs, singles] ahead ?_ (by decide) (by decide)
    member
  simp [closingMarkRule, pairRule, singleRule, not_inContent context]

theorem symbol_covers_dot (r : List Char) :
    (step m ('.' :: r)).Covers (.symbol .dot) Symbol.dot.spelling := by
  cases starts : startsNumber ('.' :: r) with
  | true =>
      -- A digit behind the dot makes it a number, which reads at least that digit more.
      rcases startsNumber_cases starts with ⟨t, same, pos⟩ | ⟨head, -⟩
      · cases same
        have longer : ['.', '.'].length ≤ (mantissa ('.' :: r)).1 := by
          simp only [mantissa, List.length_cons, List.length_nil]
          omega
        have covers : (number ('.' :: r)).Covers .decimal ['.', '.'] :=
          numberRest_covers (b := true) longer (fun _ => rfl)
        rw [step_number context starts]
        exact covers.shorter (by decide)
      · exact absurd rfl head
  | false =>
      have same : ([dotRule].map fun rule => rule m ('.' :: r)) =
          [dots].map fun table => symbolAmong table ('.' :: r) := by
        simp [dotRule, not_inContent context]
      rw [step_dot context starts]
      exact firstOf_covers _ (t := r) rfl same (by decide) (by decide) (by decide)

theorem symbol_covers_doubleDot (r : List Char) :
    (step m ('.' :: '.' :: r)).Covers (.symbol .doubleDot) Symbol.doubleDot.spelling := by
  have plain : startsNumber ('.' :: '.' :: r) = false := isDigit_dot
  have double : dotRule m ('.' :: '.' :: r) = some (.token (.symbol .doubleDot) 2) := by
    simp [dotRule, not_inContent context, symbolAmong, dots]
  rw [step_dot context plain, firstOf_of_some double]
  exact Step.covers_self _ _

theorem symbol_covers_paren (r : List Char) :
    (step m ('(' :: r)).Covers (.symbol .leftParen) ['('] := by
  rw [step_paren context r]
  cases comment : commentRule m ('(' :: r) with
  | some s =>
      rw [firstOf_of_some comment]
      unfold commentRule at comment
      split at comment
      · obtain ⟨-, comment⟩ := Option.ite_none_left_eq_some.mp comment
        rw [← Option.some.inj comment]
        split <;> trivial
      · contradiction
  | none =>
      rw [firstOf_of_none comment]
      cases start : pragmaStartRule m ('(' :: r) with
      | some s =>
          rw [firstOf_of_some start]
          unfold pragmaStartRule at start
          split at start
          · obtain ⟨-, start⟩ := Option.ite_none_left_eq_some.mp start
            rw [← Option.some.inj start]
            exact Step.covers_of_lt (by simp only [List.length_cons, List.length_nil]; omega)
          · contradiction
      | none =>
          have single : singleRule m ('(' :: r) = some (.token (.symbol .leftParen) 1) := rfl
          rw [firstOf_of_none start, firstOf_of_some single]
          exact Step.covers_self _ _

end Expression

/-- Markup is longer than every symbol that starts like it. -/
theorem symbol_covers_angle {m : Mode} {sign : Symbol}
    (member : sign ∈ [angles, lessSign].flatten.map Prod.snd) (r : List Char) :
    (step m (sign.spelling ++ r)).Covers (.symbol sign) sign.spelling := by
  have form : sign.spelling.head? = some '<' ∧ sign.spelling.length ≤ 2 := by
    revert sign
    decide
  obtain ⟨t, spelling⟩ := List.head?_eq_some_iff.mp form.1
  have ahead : '<' :: (t ++ r) = sign.spelling ++ r := by rw [spelling]; rfl
  have parts : step m ('<' :: (t ++ r)) =
      ([xmlCommentRule, cdataRule, instructionRule].findSome? fun rule =>
        rule m ('<' :: (t ++ r))).getD (firstOf [angleRule, lessRule] m '<' (t ++ r)) := by
    rw [step_angle, ← firstOf_append]
    rfl
  rw [← ahead, parts]
  cases markup : [xmlCommentRule, cdataRule, instructionRule].findSome?
      fun rule => rule m ('<' :: (t ++ r)) with
  | some s =>
      obtain ⟨rule, inMarkup, fires⟩ := List.exists_of_findSome?_eq_some markup
      cases s with
      | token k n =>
          have longer : 2 < n := markup_length inMarkup fires
          exact Step.covers_of_lt (Nat.lt_of_le_of_lt form.2 longer)
      | skip n => trivial
      | fault cause => trivial
  | none =>
      exact firstOf_covers [angles, lessSign] ahead rfl (by decide) (by decide) member

theorem symbol_covers {m : Mode} (context : m.context = .expression) (sign : Symbol)
    (r : List Char) : (step m (sign.spelling ++ r)).Covers (.symbol sign) sign.spelling := by
  cases sign with
  | leftBrace => exact Step.covers_self _ _
  | rightBrace => exact Step.covers_self _ _
  | less | endTag | lessEq | before => exact symbol_covers_angle (by decide) r
  | dot => exact symbol_covers_dot context r
  | doubleDot => exact symbol_covers_doubleDot context r
  | leftParen => exact symbol_covers_paren context r
  | _ => exact symbol_covers_sign context r (by decide) (by decide)

/-! ### Names, markup and pragmas -/

theorem xmlComment_covers (m : Mode) {w : List Char} (h : XmlComment w) (r : List Char) :
    (step m (w ++ r)).Covers .comment w := by
  rw [step_xmlComment m r h]
  exact Step.covers_self _ _

theorem cdata_covers (m : Mode) {w : List Char} (h : Cdata w) (r : List Char) :
    (step m (w ++ r)).Covers .cdata w := by
  rw [step_cdata m r h]
  exact Step.covers_self _ _

theorem instruction_covers (m : Mode) {w : List Char} (h : Instruction w) (r : List Char) :
    (step m (w ++ r)).Covers .instruction w := by
  rw [step_instruction m r h]
  exact Step.covers_self _ _

theorem end_covers {m : Mode} (outside : m.pragma = false) (r : List Char) :
    (step m ([] ++ r)).Covers .eof [] := by
  cases r with
  | nil =>
      rw [List.nil_append, step, endStep, outside]
      exact Step.covers_self _ _
  | cons c r =>
      have advances := @step_advances m (c :: r) (List.cons_ne_nil c r)
      rw [List.nil_append]
      cases found : step m (c :: r) with
      | token k n =>
          rw [found] at advances
          exact Step.covers_of_lt advances
      | skip n => trivial
      | fault cause => trivial

section Expression

variable {m : Mode} (context : m.context = .expression)

include context

theorem name_covers {w : List Char} (h : Name w) (r : List Char) :
    (step m (w ++ r)).Covers (.ofName w) w := by
  obtain ⟨c, rest, rfl, start, all⟩ := h
  have length : 1 + run isNameChar (rest ++ r) = (c :: rest).length + run isNameChar r := by
    rw [Text.run_append r all, List.length_cons]
    omega
  rw [List.cons_append, step_name context (rest ++ r) start, length]
  refine ⟨Nat.le_add_right _ _, ?_⟩
  intro same
  rw [same, ← List.cons_append, List.take_left]

theorem blank_covers (outside : m.pragma = false) (explicit : m.blanks = true) {w : List Char}
    (h : Run isBlank w) (r : List Char) : (step m (w ++ r)).Covers .blank w := by
  obtain ⟨c, t, rfl⟩ := List.exists_cons_of_ne_nil h.1
  rw [List.cons_append, step_blank context (t ++ r) (h.2 c List.mem_cons_self), outside, explicit]
  refine ⟨?_, fun _ => rfl⟩
  rw [← List.cons_append, Text.run_append r h.2]
  exact Nat.le_add_right _ _

theorem pragmaStart_covers {w : List Char} (h : PragmaStart w) (r : List Char) :
    (step m (w ++ r)).Covers .pragmaStart w := by
  obtain ⟨blanks, all, rfl⟩ := h
  have comment : commentRule m ('(' :: '#' :: (blanks ++ r)) = none := rfl
  have fires : pragmaStartRule m ('(' :: '#' :: (blanks ++ r)) =
      some (.token .pragmaStart (2 + run isBlank (blanks ++ r))) := by
    simp [pragmaStartRule, not_inContent context]
  rw [List.cons_append, List.cons_append, step_paren context, firstOf_of_none comment,
    firstOf_of_some fires]
  refine ⟨?_, fun _ => rfl⟩
  rw [Text.run_append r all, List.length_cons, List.length_cons]
  omega

theorem number_step {b : Bool} {v w : List Char} (h : Mantissa b v) (start : v <+: w) :
    step m w = number w := by
  obtain ⟨t, rfl⟩ := start
  exact step_number context (startsNumber_append h t)

/-- Whatever text of a permitted kind stands ahead, the step covers it. -/
theorem step_covers (outside : m.pragma = false) {k : Kind} {w : List Char}
    (permitted : m.permits k = true) (h : Lexeme m k w) (r : List Char) :
    (step m (w ++ r)).Covers k w := by
  have content := not_inContent context
  cases k with
  | eof =>
      have text : w = [] := h
      rw [text]
      exact end_covers outside r
  | blank =>
      simp only [Mode.permits, Bool.and_eq_true] at permitted
      exact blank_covers context outside permitted.1.1 h r
  | name =>
      have covers := name_covers context h.1 r
      rwa [Kind.ofName_name h.2] at covers
  | keyword k =>
      have spelling : w = k.spelling.toList := h
      have covers := name_covers context k.spelling_name r
      rwa [Kind.ofName_keyword, ← spelling] at covers
  | integer =>
      rw [number_step context h (List.prefix_append w r)]
      exact number_covers (b := false) h r
  | decimal =>
      rw [number_step context h (List.prefix_append w r)]
      exact number_covers (b := true) h r
  | double =>
      obtain ⟨b, v, mark, sign, digits, valid, -, -, -, same⟩ := id h
      have start : v <+: w ++ r := by
        rw [same, List.append_assoc]
        exact List.prefix_append _ _
      rw [number_step context valid start]
      exact number_covers_double h r
  | string =>
      obtain ⟨d, body, valid, rfl⟩ := h
      have on : m.strings = true := by
        simp only [Mode.permits, Bool.and_eq_true] at permitted
        exact permitted.1
      have ahead : d.char :: (body ++ [d.char]) ++ r = d.char :: (body ++ d.char :: r) := by simp
      rw [ahead, step_quote context, if_pos on]
      exact stringRest_covers valid r
  | elementText => simp [Mode.permits, not_inElement context] at permitted
  | attributeText => simp [Mode.permits, Mode.inAttribute, Mode.delimiter?, context] at permitted
  | entityRef => simp [Mode.permits, content] at permitted
  | charRef => simp [Mode.permits, content] at permitted
  | escape d => simp [Mode.permits, Mode.delimiter?, context] at permitted
  | quote d =>
      have off : ¬ m.strings = true := by
        intro on
        simp [Mode.permits, on] at permitted
      have text : w = [d.char] := h
      rw [text, List.cons_append, step_quote context, if_neg off]
      exact Step.covers_self _ _
  | comment => exact xmlComment_covers m h r
  | cdata => exact cdata_covers m h r
  | instruction => exact instruction_covers m h r
  | pragmaStart => exact pragmaStart_covers context h r
  | pragmaEnd => simp [Mode.permits, outside] at permitted
  | symbol sign =>
      have text : w = sign.spelling := h
      rw [text]
      exact symbol_covers context sign r

end Expression

end Scan

namespace Scanner

/-- At every point that a session can reach, and outside content and pragmas, the token is the
longest text of a permitted kind, and no other permitted kind has that text. -/
theorem next_takes_longest (source : String) (start : Mode) (actions : List Action) (m : Mode)
    (t : Token) (s' : Scanner) (content : m.inContent = false) (outside : m.pragma = false)
    (h : next { (Scanner.ofText source start).after actions with mode := m } = (.ok t, s')) :
    ∃ ahead, Text.slice? source.toList t.span.start (Text.byteLength source.toList) = some ahead ∧
      t.text.toList <+: ahead ∧
      (∀ k w, m.permits k = true → Lexeme m k w → w <+: ahead →
        w.length ≤ t.text.toList.length) ∧
      m.permits t.kind = true ∧ Lexeme m t.kind t.text.toList ∧
      ∀ k, m.permits k = true → Lexeme m k t.text.toList → k = t.kind := by
  obtain ⟨gap, gives⟩ := gives_of_next h
  have context := Mode.expression_of_not_inContent content
  have placed : ((Scanner.ofText source start).after actions).cursor.In source.toList :=
    after_placed (Cursor.In.ofText source) actions
  have covers : ∀ k w, m.permits k = true → Lexeme m k w →
      w <+: (((Scanner.ofText source start).after actions).cursor.forward gap.length).rest →
      (Step.token t.kind t.text.toList.length).Covers k w := by
    intro k w permitted lexeme ⟨r, split⟩
    have covers := Scan.step_covers context outside permitted lexeme r
    rwa [split, gives.read] at covers
  refine ⟨_, ?_, gives.text, ?_, gives.permitted, gives.lexeme, ?_⟩
  · rw [gives.span]
    exact (placed.forward gap.length).slice_end
  · intro k w permitted lexeme ahead
    exact (covers k w permitted lexeme ahead).1
  · intro k permitted lexeme
    exact ((covers k _ permitted lexeme gives.text).2 rfl).symm

theorem next_takes_longest_mark :
    ∃ t s' ahead, next (Scanner.ofText "]]>=") = (.ok t, s') ∧ t.text = "]]>" ∧
      Text.slice? "]]>=".toList t.span.start 4 = some ahead ∧
      ∀ k w, ({} : Mode).permits k = true → Lexeme {} k w → w <+: ahead → w.length ≤ 3 := by
  have called := next_of_token (s := Scanner.ofText "]]>=") rfl (settle_of_token rfl)
  obtain ⟨ahead, slice, -, longest, -⟩ :=
    next_takes_longest "]]>=" {} [] {} _ _ rfl rfl called
  exact ⟨_, _, ahead, called, rfl, slice, longest⟩

end Scanner

end QueryScan
