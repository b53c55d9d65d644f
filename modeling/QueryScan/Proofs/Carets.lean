import QueryScan.Proofs.Faults
import QueryScan.Proofs.Lines
import QueryScan.Proofs.ReadBack

/-! Errors drawn under their line. The scanner counts characters while it reads, and the line is
found through the index of byte offsets; both agree, so the first caret stands under the first
character of what the error is about. That character is no blank, and so it is never among the
carriage returns that are left out at the end of the line. -/
namespace QueryScan

open Grammar
open Unicode (isBlank isDigit)

/-! ### What a span starts with -/

namespace Grammar

theorem isBlank_of_isDigit {c : Char} (digit : isDigit c = true) : isBlank c = false :=
  Unicode.isBlank_of_not_isSign (Unicode.isSign_of_isDigit digit)

theorem isBlank_of_isAlphanum {c : Char} (letter : c.isAlphanum = true) : isBlank c = false := by
  rw [Bool.eq_false_iff]
  intro blank
  simp only [isBlank, Bool.or_eq_true, beq_iff_eq] at blank
  rcases blank with ((rfl | rfl) | rfl) | rfl <;> contradiction

theorem Opens.cons {construct : Construct} {w : List Char} (h : Opens construct w) :
    ∃ c t, w = c :: t ∧ isBlank c = false := by
  cases construct with
  | comment | xmlComment | cdata | pragma =>
      obtain ⟨t, rfl⟩ := h
      exact ⟨_, _, rfl, by decide⟩
  | instruction =>
      obtain ⟨c, -, t, rfl⟩ := h
      exact ⟨_, _, rfl, by decide⟩
  | string =>
      obtain ⟨d, t, rfl⟩ := h
      exact ⟨d.char, t, rfl, by cases d <;> decide⟩

theorem Mantissa.solid {b : Bool} {w : List Char} (h : Mantissa b w) :
    w ≠ [] ∧ ∀ c ∈ w, isBlank c = false := by
  have dot : isBlank '.' = false := by decide
  cases h with
  | whole digits => exact ⟨digits.1, fun c member => isBlank_of_isDigit (digits.2 c member)⟩
  | dotted digits more =>
      refine ⟨by simp, ?_⟩
      simp only [List.mem_append, List.mem_cons]
      rintro c (early | rfl | late)
      · exact isBlank_of_isDigit (digits.2 c early)
      · exact dot
      · exact isBlank_of_isDigit (more c late)
  | bare digits =>
      refine ⟨by simp, ?_⟩
      simp only [List.mem_cons]
      rintro c (rfl | late)
      · exact dot
      · exact isBlank_of_isDigit (digits.2 c late)

theorem NumberStub.solid {w : List Char} (h : NumberStub w) :
    w ≠ [] ∧ ∀ c ∈ w, isBlank c = false := by
  obtain ⟨b, m, mark, sign, valid, form, signed, rfl⟩ := h
  have exponent : ((mark :: sign).all fun c => !isBlank c) = true := by
    rcases form with rfl | rfl <;> rcases signed with rfl | rfl | rfl <;> decide
  refine ⟨by simp, ?_⟩
  intro c member
  rcases List.mem_append.mp member with early | late
  · exact valid.solid.2 c early
  · simpa using List.all_eq_true.mp exponent c late

theorem ReferenceLook.solid {w : List Char} (h : ReferenceLook w) :
    w ≠ [] ∧ ∀ c ∈ w, isBlank c = false := by
  obtain ⟨body, close, rfl, letters, closed⟩ := h
  refine ⟨List.cons_ne_nil _ _, ?_⟩
  simp only [List.mem_cons, List.mem_append]
  rintro c (rfl | inside | last)
  · decide
  · rcases letters c inside with rfl | letter
    · decide
    · exact isBlank_of_isAlphanum letter
  · rcases closed with rfl | rfl
    · contradiction
    · rw [List.mem_singleton.mp last]
      decide

end Grammar

/-- The span covers `text`, which starts with no blank, and which holds no blank at all when it ends
before the source does. -/
structure Span.Solid (source : String) (span : Span) (text : List Char) : Prop where
  covers : Text.slice? source.toList span.start span.stop = some text
  first : ∃ c t, text = c :: t ∧ isBlank c = false
  inside : (∀ c ∈ text, isBlank c = false) ∨ span.stop = source.utf8ByteSize

theorem Span.slice?_of_text? {source text : String} {span : Span}
    (h : span.text? source = some text) :
    Text.slice? source.toList span.start span.stop = some text.toList := by
  obtain ⟨w, cut, rfl⟩ := Option.map_eq_some_iff.mp h
  rw [cut, String.toList_ofList]

theorem Span.solid_of_forall {source : String} {span : Span} {text : List Char}
    (covers : Text.slice? source.toList span.start span.stop = some text)
    (all : text ≠ [] ∧ ∀ c ∈ text, isBlank c = false) : span.Solid source text := by
  refine ⟨covers, ?_, .inl all.2⟩
  obtain ⟨c, t, rfl⟩ := List.exists_cons_of_ne_nil all.1
  exact ⟨c, t, rfl, all.2 c List.mem_cons_self⟩

theorem LexError.Truthful.solid {source : String} {e : LexError} (h : e.Truthful source) :
    ∃ text, e.span.Solid source text := by
  cases e with
  | noViableToken found span =>
      refine ⟨[found], Span.solid_of_forall ?_ ⟨List.cons_ne_nil _ _, ?_⟩⟩
      · exact (Span.slice?_of_text? h.1).trans (congrArg some (String.toList_singleton found))
      · simpa using h.2
  | unterminated construct span =>
      obtain ⟨stop, ahead, cut, opens⟩ := h
      refine ⟨ahead, ?_, opens.cons, .inr stop⟩
      rwa [show (LexError.unterminated construct span).span.stop = source.utf8ByteSize from stop]
  | malformedNumber text span =>
      exact ⟨_, Span.solid_of_forall (Span.slice?_of_text? h.1) h.2.1.solid⟩
  | malformedReference span =>
      obtain ⟨look, ahead, cut, -, form, -⟩ := h
      exact ⟨look, Span.solid_of_forall cut form.solid⟩

/-! ### The line around a span -/

/-- The span covers `text`, and starts behind `lead` in the line `lead ++ tail`. -/
structure Span.Starts (source : String) (span : Span) (text lead tail : List Char) : Prop where
  column : span.column.toNat = lead.length + 1
  line : ∃ front behind, LineOf source.toList front (lead ++ tail) behind ∧
    span.line.toNat = front.count '\n' + 1 ∧
    span.start = Text.byteLength front + Text.byteLength lead
  /-- A text of several lines covers all that is left of the first. -/
  crossing : '\n' ∈ text → ∃ v, text = tail ++ '\n' :: v
  staying : '\n' ∉ text → text <+: tail
  reaching : span.stop = source.utf8ByteSize → '\n' ∉ text → text = tail

/-- Going back from a point of a line one finds the line feed before it. -/
theorem LineOf.takeWhile_reverse {whole front lead tail behind : List Char}
    (h : LineOf whole front (lead ++ tail) behind) :
    (front ++ lead).reverse.takeWhile (· != '\n') = lead.reverse := by
  have single : '\n' ∉ lead.reverse := by
    intro feed
    exact h.whole (List.mem_append_left _ (List.mem_reverse.mp feed))
  rw [List.reverse_append]
  refine Text.takeWhile_run (Text.bne_of_notMem single) ?_
  intro c last
  rw [List.head?_reverse] at last
  simpa using h.opens c last

/-- Lines and columns counted from the text before a place are those of the line around it. -/
theorem Place.In.around {source : String} {p : Place} {before ahead : List Char} (h : p.In source)
    (countable : Text.Countable source.toList) (split : source.toList = before ++ ahead)
    (offset : Text.byteLength before = p.offset) :
    ∃ front lead tail behind, LineOf source.toList front (lead ++ tail) behind ∧
      before = front ++ lead ∧ ahead = tail ++ behind ∧ p.line.toNat = front.count '\n' + 1 ∧
      p.column.toNat = lead.length + 1 := by
  -- The counted text and `before` have the same bytes in the source, so they are the same text.
  obtain ⟨counted, cut, line, column⟩ := h.exact countable
  obtain ⟨u, v, parts, none, total⟩ := Text.slice?_split cut
  obtain ⟨front, lead, tail, behind, here, rfl, rfl⟩ := exists_lineOf before ahead
  rw [← split] at here
  have same : u ++ counted = front ++ lead := by
    refine (Text.append_of_byteLength (a := v) (b := tail ++ behind) ?_ ?_).1
    · rw [← split, List.append_assoc]
      exact parts.symm
    · rw [Text.byteLength_append, total, ← offset]
  have nothing : u = [] := (Text.append_of_byteLength (v := []) (List.append_nil u) none).1
  rw [nothing, List.nil_append] at same
  refine ⟨front, lead, tail, behind, here, rfl, rfl, ?_, ?_⟩
  · have feeds : lead.count '\n' = 0 :=
      List.count_eq_zero.mpr fun feed => here.whole (List.mem_append_left _ feed)
    rw [line, same, Text.lineBehind, List.count_append, feeds, Nat.add_zero, Nat.add_comm]
  · rw [column, same, Text.columnBehind, here.takeWhile_reverse, List.length_reverse, Nat.add_comm]

/-- A text that starts in a line ends in it or goes on behind its line feed. -/
theorem LineOf.prefix_or_beyond {whole front lead tail behind text after : List Char}
    (h : LineOf whole front (lead ++ tail) behind) (same : text ++ after = tail ++ behind) :
    text <+: tail ∨ ∃ v, text = tail ++ '\n' :: v := by
  rcases List.append_eq_append_iff.mp same with ⟨t, rfl, -⟩ | ⟨t, rfl, rfl⟩
  · exact .inl (List.prefix_append text t)
  · cases t with
    | nil => exact .inl (by simp)
    | cons c v =>
        rw [h.closes c rfl]
        exact .inr ⟨v, rfl⟩

theorem Span.Solid.starts {source : String} {span : Span} {text : List Char}
    (solid : span.Solid source text) (formed : span.WellFormed source)
    (countable : Text.Countable source.toList) :
    ∃ lead tail, span.Starts source text lead tail := by
  obtain ⟨before, after, split, start, stop⟩ := Text.slice?_split solid.covers
  obtain ⟨front, lead, tail, behind, here, rfl, same, line, column⟩ :=
    formed.start.around countable split start
  rw [Text.byteLength_append] at start
  have inLine : '\n' ∉ tail := fun feed => here.whole (List.mem_append_right lead feed)
  have staying : '\n' ∉ text → text <+: tail := by
    intro single
    rcases here.prefix_or_beyond same with inside | ⟨v, rfl⟩
    · exact inside
    · exact absurd (by simp) single
  refine ⟨lead, tail, column, ⟨front, behind, here, line, start.symm⟩, ?_, staying, ?_⟩
  · intro several
    rcases here.prefix_or_beyond same with inside | beyond
    · exact absurd (inside.subset several) inLine
    · exact beyond
  · intro reach single
    have nothing : after = [] := by
      refine (Text.append_of_byteLength (u := (front ++ lead) ++ text) (v := source.toList)
        (b := []) ?_ ?_).2
      · rw [List.append_nil, split, List.append_assoc]
      · rw [Text.byteLength_append, stop, reach, Text.byteLength_eq, String.ofList_toList]
    rw [nothing, List.append_nil] at same
    obtain ⟨t, rfl⟩ := staying single
    have rest := List.self_eq_append_right.mp (same.trans (List.append_assoc text t behind))
    rw [(List.append_eq_nil_iff.mp rest).1, List.append_nil]

/-- What starts in the line and is no line feed starts with the rest of the line. -/
theorem Span.Starts.head_tail {source : String} {span : Span} {c : Char} {t lead tail : List Char}
    (h : span.Starts source (c :: t) lead tail) (other : c ≠ '\n') : ∃ r, tail = c :: r := by
  by_cases several : '\n' ∈ c :: t
  · obtain ⟨v, same⟩ := h.crossing several
    cases tail with
    | nil => exact absurd (List.cons.inj same).1 other
    | cons x r => exact ⟨r, by rw [(List.cons.inj same).1]⟩
  · obtain ⟨r, rfl⟩ := h.staying several
    exact ⟨t ++ r, rfl⟩

theorem Span.Solid.shows {source : String} {span : Span} {text : List Char}
    (solid : span.Solid source text) (formed : span.WellFormed source)
    (countable : Text.Countable source.toList) :
    ∃ c t lead tail rest returns, text = c :: t ∧ span.Starts source text lead tail ∧
      Text.Shows tail (c :: rest) returns := by
  obtain ⟨lead, tail, starts⟩ := solid.starts formed countable
  obtain ⟨c, t, rfl, notBlank⟩ := solid.first
  have notFeed : c ≠ '\n' := by
    rintro rfl
    exact absurd notBlank (by decide)
  have notReturn : c ≠ '\r' := by
    rintro rfl
    exact absurd notBlank (by decide)
  obtain ⟨r, rfl⟩ := starts.head_tail notFeed
  obtain ⟨shown, returns, displayed⟩ := Text.exists_shows (c :: r)
  obtain ⟨rest, rfl⟩ := displayed.head notReturn
  exact ⟨c, t, lead, c :: r, rest, returns, rfl, starts, displayed⟩

/-! ### The snippet -/

theorem Span.Starts.snippet {source : String} {span : Span} {text lead tail shown : List Char}
    {returns : Nat} (h : span.Starts source text lead tail)
    (covers : Text.slice? source.toList span.start span.stop = some text)
    (displayed : Text.Shows (lead ++ tail) shown returns) (name : String) :
    Snippet.ofSpan? (SourceFile.ofText name source) span =
      some ⟨String.ofList shown, span.line.toNat, span.column.toNat,
        span.column.toNat + (Snippet.firstLine text).length⟩ := by
  obtain ⟨front, behind, here, line, -⟩ := h.line
  have found := here.line? name displayed
  rw [← line] at found
  have positive : max span.column.toNat 1 = span.column.toNat := by
    rw [h.column]
    exact Nat.max_eq_left (Nat.le_add_left 1 lead.length)
  have width : span.text? (SourceFile.ofText name source).content = some (String.ofList text) := by
    rw [Span.text?]
    exact congrArg (Option.map String.ofList) covers
  simp only [Snippet.ofSpan?, found, width, Option.bind_eq_bind, Option.bind_some, Option.elim_some,
    positive, String.toList_ofList]
  rfl

/-! ### The drawing -/

namespace Snippet

/-- The line number in its column, and the bar. -/
def rowHead (s : Snippet) : List Char :=
  List.replicate (s.gutter - s.lineNumber.repr.length) ' ' ++ s.lineNumber.repr.toList ++
    [' ', '|', ' ']

/-- The blank column under the line number, and the bar. -/
def caretHead (s : Snippet) : List Char :=
  List.replicate s.gutter ' ' ++ [' ', '|', ' ']

theorem render_toList (s : Snippet) :
    s.render.toList =
      s.rowHead ++ s.line.toList ++ '\n' :: (s.caretHead ++ s.padding ++ s.underline) := by
  simp [render, rowHead, caretHead]

theorem length_rowHead (s : Snippet) : s.rowHead.length = s.caretHead.length := by
  have fits : s.lineNumber.repr.length ≤ s.gutter := Nat.le_max_right _ _
  simp only [rowHead, caretHead, List.length_append, List.length_replicate, String.length_toList]
  omega

theorem feed_notMem_rowHead (s : Snippet) : '\n' ∉ s.rowHead := by
  simp only [rowHead, List.mem_append, List.mem_replicate]
  rintro ((⟨-, feed⟩ | digit) | bar)
  · contradiction
  · rw [Nat.repr_eq_ofList_toDigits, String.toList_ofList] at digit
    exact Text.feed_notMem_toDigits (by decide) (by decide) _ digit
  · exact absurd bar (by decide)

theorem feed_notMem_caretRow (s : Snippet) : '\n' ∉ s.caretHead ++ s.padding ++ s.underline := by
  simp only [caretHead, padding, underline, List.mem_append, List.mem_replicate, List.mem_map]
  rintro (((⟨-, feed⟩ | bar) | ⟨c, -, same⟩) | ⟨-, feed⟩)
  · contradiction
  · exact absurd bar (by decide)
  · split at same <;> contradiction
  · contradiction

/-- The snippet is drawn in two rows: the line, and under `column - 1` of its characters a padding,
and then carets. The first caret is under `c`. -/
structure Drawn (s : Snippet) (column : Nat) (c : Char) (head below padding carets : List Char) :
    Prop where
  rows : s.render.toList = (head ++ s.line.toList) ++ '\n' :: (below ++ padding ++ carets)
  single : '\n' ∉ head ++ s.line.toList ∧ '\n' ∉ below ++ padding ++ carets
  even : head.length = below.length
  width : padding.length + 1 = column
  tabs : ∀ i, i < padding.length →
    padding[i]? = some (if s.line.toList[i]? = some '\t' then '\t' else ' ')
  carets : carets ≠ [] ∧ ∀ x ∈ carets, x = '^'
  pointed : (head ++ s.line.toList)[(below ++ padding).length]? = some c

theorem drawn (s : Snippet) {before : Nat} {c : Char} (single : '\n' ∉ s.line.toList)
    (column : s.startColumn = before + 1) (here : s.line.toList[before]? = some c) :
    s.Drawn s.startColumn c s.rowHead s.caretHead s.padding s.underline := by
  obtain ⟨inside, -⟩ := List.getElem?_eq_some_iff.mp here
  have width : s.padding.length = before := by
    rw [padding, List.length_map, List.length_take, column, Nat.add_sub_cancel]
    exact Nat.min_eq_left (Nat.le_of_lt inside)
  refine ⟨s.render_toList, ⟨?_, s.feed_notMem_caretRow⟩, s.length_rowHead, ?_, ?_, ⟨?_, ?_⟩, ?_⟩
  · rw [List.mem_append]
    exact fun feed => feed.elim s.feed_notMem_rowHead single
  · rw [width, column]
  · intro i bound
    rw [width] at bound
    have known := List.getElem?_eq_getElem (Nat.lt_trans bound inside)
    rw [padding, List.getElem?_map, column, Nat.add_sub_cancel, List.getElem?_take_of_lt bound,
      known, Option.map_some]
    simp only [Option.some.injEq]
  · have one : 0 < max 1 (s.endColumn - s.startColumn) :=
      Nat.lt_of_lt_of_le Nat.zero_lt_one (Nat.le_max_left _ _)
    exact List.ne_nil_of_length_pos (by rwa [underline, List.length_replicate])
  · exact fun x member => List.eq_of_mem_replicate member
  · rw [List.length_append, ← s.length_rowHead, width,
      List.getElem?_append_right (Nat.le_add_right _ _), Nat.add_sub_cancel_left, here]

/-- The snippet shows the line of the source where the span starts, and its first caret stands under
the first character of what the span covers. -/
structure PointsAt (source : String) (span : Span) (s : Snippet) : Prop where
  /-- The line around the first byte of the span, without the carriage returns at its end. -/
  line : ∃ front line behind returns, LineOf source.toList front line behind ∧
    Text.byteLength front ≤ span.start ∧
    span.start < Text.byteLength front + Text.byteLength line ∧
    Text.Shows line s.line.toList returns
  column : s.startColumn = span.column.toNat
  drawn : ∃ text c, span.text? source = some text ∧ text.toList.head? = some c ∧
    ∃ head below padding carets, s.Drawn span.column.toNat c head below padding carets

end Snippet

/-- What covers a solid text is drawn, and points at it. -/
theorem Span.Solid.pointsAt {source : String} {span : Span} {text : List Char}
    (solid : span.Solid source text) (formed : span.WellFormed source)
    (countable : Text.Countable source.toList) (name : String) :
    ∃ s, Snippet.ofSpan? (SourceFile.ofText name source) span = some s ∧
      s.PointsAt source span := by
  obtain ⟨c, t, lead, tail, rest, returns, rfl, starts, displayed⟩ := solid.shows formed countable
  have displayed := displayed.behind lead (List.cons_ne_nil c rest)
  obtain ⟨front, behind, here, -, start⟩ := starts.line
  have pointed : (lead ++ c :: rest)[lead.length]? = some c := by
    rw [List.getElem?_append_right (Nat.le_refl _), Nat.sub_self, List.getElem?_cons_zero]
  have single := displayed.notMem here.whole
  refine ⟨_, starts.snippet solid.covers displayed name, ⟨?_, rfl, ?_⟩⟩
  · refine ⟨front, lead ++ tail, behind, returns, here, ?_, ?_, ?_⟩
    · rw [start]
      exact Nat.le_add_right _ _
    · rw [start, displayed.split]
      simp only [Text.byteLength_append, Text.byteLength_cons]
      have size := c.utf8Size_pos
      omega
    · rwa [String.toList_ofList]
  · refine ⟨String.ofList (c :: t), c, congrArg (Option.map String.ofList) solid.covers, ?_, ?_⟩
    · rw [String.toList_ofList, List.head?_cons]
    · refine ⟨_, _, _, _, Snippet.drawn _ ?_ starts.column ?_⟩
      · rwa [String.toList_ofList]
      · rwa [String.toList_ofList]

/-! ### Errors of a session -/

theorem Span.WellFormed.known {source : String} {span : Span} (h : span.WellFormed source)
    (countable : Text.Countable source.toList) : span ≠ .unknown := by
  rintro rfl
  obtain ⟨before, -, -, column⟩ := h.start.exact countable
  have zero : Span.unknown.column.toNat = 0 := rfl
  rw [zero, Text.columnBehind] at column
  omega

namespace Scanner

/-- From outside a pragma every error of a session lies in the source and covers a solid text. -/
theorem session_solid (source : String) {m : Mode} (outside : m.pragma = false)
    (actions : List Action) :
    ∀ r ∈ (Scanner.ofText source m).session actions, ∀ e, r.1.error? = some e →
      e.span.WellFormed source ∧ ∃ text, e.span.Solid source text := by
  refine forall_session (I := fun s => s.Anchored source ∧ s.Informed source) ?_
    ⟨anchored_ofText source m, informed_ofText source outside⟩ actions
  intro s a r kept reply
  have anchored := reply_anchored kept.1 reply
  have informed := kept.2.reply reply
  refine ⟨⟨anchored, informed⟩, ?_⟩
  intro e given
  have failure := reply.failure_of_error given
  exact ⟨anchored.failure e failure, (informed.failure e failure).solid⟩

/-- From outside a pragma every error of a session is reported with a drawing of its line that
points at it, whatever mixture of line ends, tabs and wide characters the source has, as long as its
lines and columns can be counted. -/
theorem session_carets (name source : String) (countable : Text.Countable source.toList) (m : Mode)
    (outside : m.pragma = false) (actions : List Action) :
    ∀ r ∈ (Scanner.ofText source m).session actions, ∀ e, r.1.error? = some e →
      ∃ s, Snippet.ofSpan? (SourceFile.ofText name source) e.span = some s ∧
        e.diagnostic.render (SourceFile.ofText name source) =
          e.diagnostic.headline ++ ("  --> " ++ name ++ ":" ++ e.span.line.toNat.repr ++ ":" ++
            e.span.column.toNat.repr ++ "\n" ++ (s.render ++ "\n")) ++
          String.join (e.diagnostic.helps.map fun help => "  = help: " ++ help ++ "\n") ∧
        s.PointsAt source e.span := by
  intro r member e given
  obtain ⟨formed, text, solid⟩ := session_solid source outside actions r member e given
  obtain ⟨snippet, found, points⟩ := solid.pointsAt formed countable name
  refine ⟨snippet, found, ?_, points⟩
  have located : e.diagnostic.span = e.span := rfl
  rw [Diagnostic.render, Diagnostic.location, located, if_neg (formed.known countable), found,
    Option.elim_some]
  rfl

/-- The number is drawn under a tab, behind a comment of two lines, and before three line ends. -/
theorem session_carets_number :
    ∃ r ∈ (Scanner.ofText "(:é\r\n:)\t1e\r\r\n").session [.next],
      r.1.error? = some (.malformedNumber "1e" ⟨9, 11, 2, 4⟩) ∧
        ∃ s, Snippet.ofSpan? (SourceFile.ofText "q.xq" "(:é\r\n:)\t1e\r\r\n") ⟨9, 11, 2, 4⟩ =
            some s ∧
          s.PointsAt "(:é\r\n:)\t1e\r\r\n" ⟨9, 11, 2, 4⟩ := by
  have stop := next_of_fault (s := Scanner.ofText "(:é\r\n:)\t1e\r\r\n") rfl
    ((settle_of_skip rfl).trans ((settle_of_skip rfl).trans (settle_of_fault rfl)))
  have member : (Answer.token (Scanner.ofText "(:é\r\n:)\t1e\r\r\n").next.1,
      (Scanner.ofText "(:é\r\n:)\t1e\r\r\n").next.2) ∈
        (Scanner.ofText "(:é\r\n:)\t1e\r\r\n").session [.next] :=
    List.mem_cons_self
  have error : (Answer.token (Scanner.ofText "(:é\r\n:)\t1e\r\r\n").next.1).error? =
      some (.malformedNumber "1e" ⟨9, 11, 2, 4⟩) := by
    rw [stop]
    rfl
  obtain ⟨s, found, -, points⟩ :=
    session_carets "q.xq" "(:é\r\n:)\t1e\r\r\n" (Text.countable_of_length (by decide)) {} rfl
      [.next]
      _ member _ error
  exact ⟨_, member, error, s, found, points⟩

theorem next_error_feeds {n : Nat} (pos : 0 < n) :
    ∃ e, (Scanner.ofText (String.ofList (List.replicate n '\n' ++ ['(', ':']))).next.1 = .error e ∧
      e.span.line = 1 + .ofNat n := by
  obtain ⟨settled, rest, place⟩ := settle_feeds pos
    (c := .ofText (String.ofList (List.replicate n '\n' ++ ['(', ':']))) String.toList_ofList rfl
  have unclosed : Scan.step {} ['(', ':'] = .fault (.unterminated .comment) := rfl
  have failed := next_of_fault (s := Scanner.ofText _) rfl
    (settled.trans (settle_of_fault (by rw [rest, unclosed])))
  refine ⟨_, congrArg Prod.fst failed, ?_⟩
  exact congrArg Place.line place

/-- Behind `2 ^ 32 - 1` line feeds an error is on line zero, which no source has. -/
theorem session_carets_wrapped :
    ∃ e, (Scanner.ofText (String.ofList
          (List.replicate (UInt32.size - 1) '\n' ++ ['(', ':']))).next.1 = .error e ∧
      e.span.line = 0 ∧
      ∀ file, Snippet.ofSpan? file e.span = none := by
  have zero : (1 : UInt32) + .ofNat (UInt32.size - 1) = 0 := by decide
  obtain ⟨e, failed, line⟩ := next_error_feeds (n := UInt32.size - 1) (by decide)
  rw [zero] at line
  exact ⟨e, failed, line, fun file => by simp [Snippet.ofSpan?, SourceFile.line?, line]⟩

end Scanner

end QueryScan
