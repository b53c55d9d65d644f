import QueryScan.Text.Digits
import QueryScan.Text.Json
import QueryScan.Text.Quoted
import Mathlib.Data.List.TakeWhile

/-! Printed values are read back from in front of whatever follows them. Quoted text and JSON tell
their own end, and a numeral ends where no digit follows. -/
namespace QueryScan

namespace Text

theorem bne_of_notMem {a : Char} {w : List Char} (free : a ∉ w) : ∀ c ∈ w, (c != a) = true := by
  intro c member
  simp only [bne_iff_ne, ne_eq]
  rintro rfl
  exact free member

theorem takeWhile_run {p : Char → Bool} {a r : List Char} (all : ∀ c ∈ a, p c = true)
    (stop : ∀ c ∈ r.head?, p c = false) : (a ++ r).takeWhile p = a := by
  rw [List.takeWhile_append_of_pos all]
  cases r with
  | nil => exact List.append_nil _
  | cons c r => rw [List.takeWhile_cons_of_neg (by simp [stop c rfl]), List.append_nil]

/-- Where a run of one class of characters stops is told by the text. -/
theorem run_append_inj {p : Char → Bool} {a b r s : List Char} (allA : ∀ c ∈ a, p c = true)
    (allB : ∀ c ∈ b, p c = true) (stopR : ∀ c ∈ r.head?, p c = false)
    (stopS : ∀ c ∈ s.head?, p c = false) (same : a ++ r = b ++ s) : a = b ∧ r = s := by
  have runs : a = b := by rw [← takeWhile_run allA stopR, same, takeWhile_run allB stopS]
  rw [runs] at same
  exact ⟨runs, List.append_cancel_left same⟩

/-! ### Numerals -/

/-- A numeral that stands before this text ends there, whatever its base. -/
structure EndsNumeral (r : List Char) : Prop where
  head : ∀ c ∈ r.head?, isHexDigit c = false

theorem endsNumeral_nil : EndsNumeral [] :=
  ⟨by simp⟩

theorem endsNumeral_cons {c : Char} (r : List Char) (other : isHexDigit c = false) :
    EndsNumeral (c :: r) :=
  ⟨by simpa using other⟩

theorem isHexDigit_digitChar : ∀ n < 16, isHexDigit n.digitChar = true := by
  decide

theorem digitValue_digitChar : ∀ n < 16, digitValue n.digitChar = n := by
  decide

section

variable {base : Nat} (two : 1 < base) (sixteen : base ≤ 16)
include two sixteen

theorem isHexDigit_of_mem_toDigits (n : Nat) :
    ∀ c ∈ Nat.toDigits base n, isHexDigit c = true := by
  induction n using Nat.strongRecOn with
  | ind n ih =>
      rw [Nat.toDigits_eq_if two]
      split
      · next small => simpa using isHexDigit_digitChar n (Nat.lt_of_lt_of_le small sixteen)
      · next large =>
          have last : n % base < base := Nat.mod_lt n (Nat.zero_lt_of_lt two)
          have shorter : n / base < n := Nat.div_lt_self (by omega) two
          intro c member
          rcases List.mem_append.mp member with early | late
          · exact ih (n / base) shorter c early
          · rw [List.mem_singleton.mp late]
            exact isHexDigit_digitChar _ (Nat.lt_of_lt_of_le last sixteen)

theorem toDigits_eq_cons (n : Nat) :
    ∃ c t, Nat.toDigits base n = c :: t ∧ isHexDigit c = true := by
  obtain ⟨c, t, digits⟩ := List.exists_cons_of_ne_nil (Nat.toDigits_ne_nil (n := n) (b := base))
  refine ⟨c, t, digits, isHexDigit_of_mem_toDigits two sixteen n c ?_⟩
  rw [digits]
  exact List.mem_cons_self

theorem feed_notMem_toDigits (n : Nat) : '\n' ∉ Nat.toDigits base n := by
  intro feed
  have digit := isHexDigit_of_mem_toDigits two sixteen n _ feed
  contradiction

theorem valueOf_toDigits (n : Nat) : valueOf base (Nat.toDigits base n) = n := by
  induction n using Nat.strongRecOn with
  | ind n ih =>
      rw [Nat.toDigits_eq_if two]
      split
      · next small =>
          have digit := digitValue_digitChar n (Nat.lt_of_lt_of_le small sixteen)
          simp [valueOf, digit]
      · next large =>
          have last : n % base < base := Nat.mod_lt n (Nat.zero_lt_of_lt two)
          have shorter : n / base < n := Nat.div_lt_self (by omega) two
          have digit := digitValue_digitChar _ (Nat.lt_of_lt_of_le last sixteen)
          have front := ih (n / base) shorter
          rw [valueOf] at front ⊢
          rw [List.foldl_append, front, List.foldl_cons, List.foldl_nil, digit, Nat.mul_comm,
            Nat.div_add_mod]

/-- A numeral is read back where it ends. -/
theorem toDigits_append_inj {m n : Nat} {r s : List Char} (endsR : EndsNumeral r)
    (endsS : EndsNumeral s) (same : Nat.toDigits base m ++ r = Nat.toDigits base n ++ s) :
    m = n ∧ r = s := by
  obtain ⟨digits, rest⟩ := run_append_inj (isHexDigit_of_mem_toDigits two sixteen m)
    (isHexDigit_of_mem_toDigits two sixteen n) endsR.head endsS.head same
  refine ⟨?_, rest⟩
  rw [← valueOf_toDigits two sixteen m, digits, valueOf_toDigits two sixteen n]

end

/-! ### Escapes -/

/-- How a character may be written between quotes `q`: as it is, with a letter of its own behind a
backslash, or by its code point. -/
inductive Escaped (letter : Char → Char) (code : Char → List Char) (coded : Char → Prop)
    (q c : Char) : List Char → Prop
  | plain : c ≠ '\\' → c ≠ q → c ≠ '\n' → Escaped letter code coded q c [c]
  | letter (x : Char) : x ≠ 'u' → x ≠ '\n' → letter x = c → Escaped letter code coded q c ['\\', x]
  | code : coded c → Escaped letter code coded q c ('\\' :: 'u' :: code c)

variable {letter : Char → Char} {code : Char → List Char} {coded : Char → Prop} {q : Char}
  {escape : Char → List Char}

theorem Escaped.unique {c d : Char} {v w r s : List Char}
    (codes : ∀ ⦃c d r s⦄, coded c → coded d → code c ++ r = code d ++ s → c = d ∧ r = s)
    (first : Escaped letter code coded q c v) (second : Escaped letter code coded q d w)
    (same : v ++ r = w ++ s) : c = d ∧ r = s := by
  cases first with
  | plain slash =>
      cases second with
      | plain => exact List.cons.inj same
      | letter | code => exact absurd (List.cons.inj same).1 slash
  | letter x notCode line means =>
      cases second with
      | plain slash => exact absurd (List.cons.inj same).1.symm slash
      | letter y notCode' line' means' =>
          obtain ⟨rfl, rest⟩ := List.cons.inj (List.cons.inj same).2
          exact ⟨means.symm.trans means', rest⟩
      | code => exact absurd (List.cons.inj (List.cons.inj same).2).1 notCode
  | code known =>
      cases second with
      | plain slash => exact absurd (List.cons.inj same).1.symm slash
      | letter y notCode => exact absurd (List.cons.inj (List.cons.inj same).2).1.symm notCode
      | code known' => exact codes known known' (List.cons.inj (List.cons.inj same).2).2

/-- No escape looks like the closing quote. -/
theorem Escaped.head {c : Char} {w : List Char} (slash : q ≠ '\\')
    (h : Escaped letter code coded q c w) : ∃ x t, w = x :: t ∧ x ≠ q := by
  cases h with
  | plain _ other => exact ⟨c, [], rfl, other⟩
  | letter x => exact ⟨'\\', [x], rfl, slash.symm⟩
  | code => exact ⟨'\\', 'u' :: code c, rfl, slash.symm⟩

theorem Escaped.feed_notMem {c : Char} {w : List Char} (codes : ∀ c, '\n' ∉ code c)
    (h : Escaped letter code coded q c w) : '\n' ∉ w := by
  cases h with
  | plain _ _ line => simpa using line.symm
  | letter x _ line => simpa using line.symm
  | code => simpa using codes c

/-- A quoted text is read back: each character by its escape, and the end by the quote. -/
theorem quote_append_inj {cs ds r s : List Char} (slash : q ≠ '\\')
    (each : ∀ c, Escaped letter code coded q c (escape c))
    (codes : ∀ ⦃c d r s⦄, coded c → coded d → code c ++ r = code d ++ s → c = d ∧ r = s)
    (same : q :: cs.flatMap escape ++ [q] ++ r = q :: ds.flatMap escape ++ [q] ++ s) :
    cs = ds ∧ r = s := by
  have behind : cs.flatMap escape ++ q :: r = ds.flatMap escape ++ q :: s := by
    simpa using same
  clear same
  induction cs generalizing ds with
  | nil =>
      cases ds with
      | nil => exact ⟨rfl, (List.cons.inj behind).2⟩
      | cons d ds =>
          obtain ⟨x, t, form, other⟩ := (each d).head slash
          rw [List.flatMap_cons, form] at behind
          exact absurd (List.cons.inj behind).1.symm other
  | cons c cs ih =>
      cases ds with
      | nil =>
          obtain ⟨x, t, form, other⟩ := (each c).head slash
          rw [List.flatMap_cons, form] at behind
          exact absurd (List.cons.inj behind).1 other
      | cons d ds =>
          rw [List.flatMap_cons, List.flatMap_cons, List.append_assoc, List.append_assoc] at behind
          obtain ⟨rfl, rest⟩ := (each c).unique codes (each d) behind
          obtain ⟨rfl, same⟩ := ih rest
          exact ⟨rfl, same⟩

/-! ### Quoted text on one line -/

/-- What a letter behind a backslash stands for. -/
def ofLetter (x : Char) : Char :=
  if x = '0' then '\x00' else if x = 't' then '\t' else if x = 'r' then '\r'
  else if x = 'n' then '\n' else x

/-- The code point between braces. -/
def bracedCode (c : Char) : List Char :=
  '{' :: hexDigits c.toNat ++ ['}']

theorem bracedCode_append_inj {c d : Char} {r s : List Char}
    (same : bracedCode c ++ r = bracedCode d ++ s) : c = d ∧ r = s := by
  have digits : Nat.toDigits 16 c.toNat ++ '}' :: r = Nat.toDigits 16 d.toNat ++ '}' :: s := by
    simpa [bracedCode, hexDigits] using same
  obtain ⟨number, rest⟩ := toDigits_append_inj (by decide) (by decide)
    (endsNumeral_cons r (by decide)) (endsNumeral_cons s (by decide)) digits
  exact ⟨Char.toNat_inj.mp number, (List.cons.inj rest).2⟩

theorem escape_escaped (c : Char) :
    Escaped ofLetter bracedCode (fun _ => True) '"' c (Text.escape '"' c) := by
  unfold Text.escape
  split
  · next zero => exact zero ▸ .letter '0' (by decide) (by decide) (by decide)
  split
  · next tab => exact tab ▸ .letter 't' (by decide) (by decide) (by decide)
  split
  · next cr => exact cr ▸ .letter 'r' (by decide) (by decide) (by decide)
  split
  · next feed => exact feed ▸ .letter 'n' (by decide) (by decide) (by decide)
  next feed =>
    split
    · next itself =>
        rcases itself with rfl | rfl
        · exact .letter '\\' (by decide) (by decide) (by decide)
        · exact .letter '"' (by decide) (by decide) (by decide)
    next other =>
      obtain ⟨slash, quote⟩ := not_or.mp other
      split
      · exact .plain slash quote feed
      split
      · exact .code trivial
      · exact .plain slash quote feed

theorem feed_notMem_bracedCode (c : Char) : '\n' ∉ bracedCode c := by
  simp only [bracedCode, List.mem_append, List.mem_cons]
  rintro ((brace | digit) | brace)
  · contradiction
  · exact feed_notMem_toDigits (by decide) (by decide) _ digit
  · exact absurd brace (by decide)

/-- A quoted text is on one line, whatever the text holds. -/
theorem feed_notMem_quoted (s : String) : '\n' ∉ (quoted s).toList := by
  simp only [quoted, quote, String.toList_ofList, List.mem_append, List.mem_cons, List.mem_flatMap]
  rintro ((mark | ⟨c, -, feed⟩) | mark)
  · contradiction
  · exact (escape_escaped c).feed_notMem feed_notMem_bracedCode feed
  · exact absurd mark (by decide)

/-- A quoted text is read back. -/
theorem quoted_append_inj {a b : String} {r s : List Char}
    (same : (quoted a).toList ++ r = (quoted b).toList ++ s) : a = b ∧ r = s := by
  rw [quoted, quoted, String.toList_ofList, String.toList_ofList] at same
  obtain ⟨text, rest⟩ := quote_append_inj (by decide) escape_escaped
    (fun _ _ _ _ _ _ => bracedCode_append_inj) same
  exact ⟨String.toList_inj.mp text, rest⟩

end Text

namespace Json

/-! ### JSON -/

/-- What a letter behind a backslash stands for. -/
def ofLetter (x : Char) : Char :=
  if x = 'b' then '\x08' else if x = 'f' then '\x0c' else if x = 'n' then '\n'
  else if x = 'r' then '\r' else if x = 't' then '\t' else x

/-- The four digits of a control character. -/
def fourDigits (c : Char) : List Char :=
  ['0', '0', Nat.digitChar (c.toNat / 16), Nat.digitChar (c.toNat % 16)]

theorem fourDigits_append_inj {c d : Char} {r s : List Char} (first : c.toNat < 32)
    (second : d.toNat < 32) (same : fourDigits c ++ r = fourDigits d ++ s) : c = d ∧ r = s := by
  simp only [fourDigits, List.cons_append, List.nil_append, List.cons.injEq, true_and] at same
  obtain ⟨high, low, rest⟩ := same
  have value := Text.digitValue_digitChar
  have high' : c.toNat / 16 = d.toNat / 16 := by
    rw [← value (c.toNat / 16) (by omega), high, value (d.toNat / 16) (by omega)]
  have low' : c.toNat % 16 = d.toNat % 16 := by
    rw [← value (c.toNat % 16) (by omega), low, value (d.toNat % 16) (by omega)]
  refine ⟨Char.toNat_inj.mp ?_, rest⟩
  omega

theorem escape_escaped (c : Char) :
    Text.Escaped ofLetter fourDigits (·.toNat < 32) '"' c (escape c) := by
  unfold escape
  split
  · next itself =>
      rcases itself with rfl | rfl
      · exact .letter '"' (by decide) (by decide) (by decide)
      · exact .letter '\\' (by decide) (by decide) (by decide)
  next other =>
    obtain ⟨quote, slash⟩ := not_or.mp other
    split
    · next back => exact back ▸ .letter 'b' (by decide) (by decide) (by decide)
    split
    · next form => exact form ▸ .letter 'f' (by decide) (by decide) (by decide)
    split
    · next feed => exact feed ▸ .letter 'n' (by decide) (by decide) (by decide)
    next feed =>
      split
      · next cr => exact cr ▸ .letter 'r' (by decide) (by decide) (by decide)
      split
      · next tab => exact tab ▸ .letter 't' (by decide) (by decide) (by decide)
      split
      · next control => exact .code control
      · exact .plain slash quote feed

theorem quote_append_inj {a b : String} {r s : List Char} (same : quote a ++ r = quote b ++ s) :
    a = b ∧ r = s := by
  obtain ⟨text, rest⟩ := Text.quote_append_inj (by decide) escape_escaped
    (fun _ _ _ _ => fourDigits_append_inj) same
  exact ⟨String.toList_inj.mp text, rest⟩

/-! The values of a list, and the fields of a record, stand between line breaks or before a comma.
So the numbers among them end, and the comma tells a further value from the closing bracket. -/

/-- The sorts of values, by number. -/
def sort : Json → Nat
  | text _ => 0
  | list _ => 1
  | record _ => 2
  | number _ => 3

/-- The sort of a value that starts with this character. -/
def sortBy (c : Char) : Nat :=
  if c = '"' then 0 else if c = '[' then 1 else if c = '{' then 2 else 3

theorem render_starts (v : Json) (depth : Nat) :
    ∃ c t, v.render depth = c :: t ∧ sortBy c = v.sort := by
  cases v with
  | text s => exact ⟨'"', _, by rw [render, quote, List.cons_append], rfl⟩
  | list items =>
      cases items with
      | nil => exact ⟨'[', _, by rw [render], rfl⟩
      | cons x xs => exact ⟨'[', _, by rw [render, List.cons_append, List.cons_append], rfl⟩
  | record fields =>
      cases fields with
      | nil => exact ⟨'{', _, by rw [render], rfl⟩
      | cons f fs =>
          obtain ⟨k, v⟩ := f
          exact ⟨'{', _, by rw [render, List.cons_append, List.cons_append, List.cons_append], rfl⟩
  | number n =>
      obtain ⟨c, t, digits, digit⟩ :=
        Text.toDigits_eq_cons (by decide : 1 < 10) (by decide) n
      refine ⟨c, t, by rw [render, digits], ?_⟩
      rw [sortBy, if_neg, if_neg, if_neg]
      · rfl
      all_goals
        rintro rfl
        contradiction

theorem sort_eq_of_render {v w : Json} {depth : Nat} {r s : List Char}
    (same : v.render depth ++ r = w.render depth ++ s) : v.sort = w.sort := by
  obtain ⟨c, t, first, sort⟩ := render_starts v depth
  obtain ⟨d, u, second, sort'⟩ := render_starts w depth
  rw [first, second] at same
  rw [← sort, ← sort', (List.cons.inj same).1]

/-- The first of the values has no comma before it. -/
theorem comma_list (depth : Nat) (x : Json) (xs : List Json) (r : List Char) :
    ',' :: ((list (x :: xs)).render depth ++ r).tail =
      renderItems (depth + 1) (x :: xs) ++ (newline depth ++ ']' :: r) := by
  simp [render, renderItems]

theorem comma_record (depth : Nat) (f : String × Json) (fs : List (String × Json))
    (r : List Char) :
    ',' :: ((record (f :: fs)).render depth ++ r).tail =
      renderFields (depth + 1) (f :: fs) ++ (newline depth ++ '}' :: r) := by
  simp [render, renderFields]

theorem endsNumeral_items (depth : Nat) (xs : List Json) (r : List Char) :
    Text.EndsNumeral (renderItems depth xs ++ '\n' :: r) := by
  cases xs with
  | nil => exact Text.endsNumeral_cons _ (by decide)
  | cons x xs => exact Text.endsNumeral_cons _ (by decide)

theorem endsNumeral_fields (depth : Nat) (fs : List (String × Json)) (r : List Char) :
    Text.EndsNumeral (renderFields depth fs ++ '\n' :: r) := by
  cases fs with
  | nil => exact Text.endsNumeral_cons _ (by decide)
  | cons f fs => exact Text.endsNumeral_cons _ (by decide)

/-- A value can be read from in front of a text where numerals end. -/
def Reads (v : Json) : Prop :=
  ∀ ⦃depth w r s⦄, Text.EndsNumeral r → Text.EndsNumeral s →
    v.render depth ++ r = w.render depth ++ s → v = w ∧ r = s

/-- Values can be read from in front of a line break. -/
def ReadsItems (xs : List Json) : Prop :=
  ∀ ⦃depth ys r s⦄, renderItems depth xs ++ '\n' :: r = renderItems depth ys ++ '\n' :: s →
    xs = ys ∧ r = s

def ReadsFields (fs : List (String × Json)) : Prop :=
  ∀ ⦃depth gs r s⦄, renderFields depth fs ++ '\n' :: r = renderFields depth gs ++ '\n' :: s →
    fs = gs ∧ r = s

theorem reads_text (a : String) : (text a).Reads := by
  intro depth w r s _ _ same
  have sorts := sort_eq_of_render same
  cases w with
  | text b =>
      rw [render, render] at same
      obtain ⟨rfl, rest⟩ := quote_append_inj same
      exact ⟨rfl, rest⟩
  | number | list | record => simp [sort] at sorts

theorem reads_number (m : Nat) : (number m).Reads := by
  intro depth w r s endsR endsS same
  have sorts := sort_eq_of_render same
  cases w with
  | number n =>
      rw [render, render] at same
      obtain ⟨rfl, rest⟩ := Text.toDigits_append_inj (by decide) (by decide) endsR endsS same
      exact ⟨rfl, rest⟩
  | text | list | record => simp [sort] at sorts

theorem ReadsItems.list {xs : List Json} (h : ReadsItems xs) : (list xs).Reads := by
  intro depth w r s _ _ same
  have sorts := sort_eq_of_render same
  cases w with
  | list ys =>
      cases xs with
      | nil =>
          cases ys with
          | nil => exact ⟨rfl, by simpa [render] using same⟩
          | cons y ys => simp [render, newline] at same
      | cons x xs =>
          cases ys with
          | nil => simp [render, newline] at same
          | cons y ys =>
              have items := congrArg (fun t => ',' :: t.tail) same
              simp only [comma_list] at items
              obtain ⟨values, rest⟩ := h items
              exact ⟨congrArg _ values, by simpa using rest⟩
  | text | number | record => simp [sort] at sorts

theorem ReadsFields.record {fs : List (String × Json)} (h : ReadsFields fs) :
    (record fs).Reads := by
  intro depth w r s _ _ same
  have sorts := sort_eq_of_render same
  cases w with
  | record gs =>
      cases fs with
      | nil =>
          cases gs with
          | nil => exact ⟨rfl, by simpa [render] using same⟩
          | cons g gs => simp [render, newline] at same
      | cons f fs =>
          cases gs with
          | nil => simp [render, newline] at same
          | cons g gs =>
              have fields := congrArg (fun t => ',' :: t.tail) same
              simp only [comma_record] at fields
              obtain ⟨values, rest⟩ := h fields
              exact ⟨congrArg _ values, by simpa using rest⟩
  | text | number | list => simp [sort] at sorts

theorem readsItems_nil : ReadsItems [] := by
  intro depth ys r s same
  cases ys with
  | nil => exact ⟨rfl, by simpa [renderItems] using same⟩
  | cons y ys => simp [renderItems] at same

theorem Reads.cons {x : Json} {xs : List Json} (first : x.Reads) (more : ReadsItems xs) :
    ReadsItems (x :: xs) := by
  intro depth ys r s same
  cases ys with
  | nil => simp [renderItems] at same
  | cons y ys =>
      have values : x.render depth ++ (renderItems depth xs ++ '\n' :: r) =
          y.render depth ++ (renderItems depth ys ++ '\n' :: s) := by
        simpa [renderItems] using same
      obtain ⟨rfl, later⟩ := first (endsNumeral_items ..) (endsNumeral_items ..) values
      obtain ⟨rfl, rest⟩ := more later
      exact ⟨rfl, rest⟩

theorem readsFields_nil : ReadsFields [] := by
  intro depth gs r s same
  cases gs with
  | nil => exact ⟨rfl, by simpa [renderFields] using same⟩
  | cons g gs => simp [renderFields] at same

theorem Reads.field {f : String × Json} {fs : List (String × Json)} (first : f.2.Reads)
    (more : ReadsFields fs) : ReadsFields (f :: fs) := by
  intro depth gs r s same
  obtain ⟨k, v⟩ := f
  cases gs with
  | nil => simp [renderFields] at same
  | cons g gs =>
      obtain ⟨l, w⟩ := g
      have keyed :
          quote k ++ ':' :: ' ' :: (v.render depth ++ (renderFields depth fs ++ '\n' :: r)) =
          quote l ++ ':' :: ' ' :: (w.render depth ++ (renderFields depth gs ++ '\n' :: s)) := by
        simpa [renderFields] using same
      obtain ⟨rfl, valued⟩ := quote_append_inj keyed
      have values := (List.cons.inj (List.cons.inj valued).2).2
      obtain ⟨rfl, later⟩ := first (endsNumeral_fields ..) (endsNumeral_fields ..) values
      obtain ⟨rfl, rest⟩ := more later
      exact ⟨rfl, rest⟩

mutual

theorem reads : (v : Json) → v.Reads
  | .text a => reads_text a
  | .number n => reads_number n
  | .list xs => (readsItems xs).list
  | .record fs => (readsFields fs).record

theorem readsItems : (xs : List Json) → ReadsItems xs
  | [] => readsItems_nil
  | x :: xs => (reads x).cons (readsItems xs)

theorem readsFields : (fs : List (String × Json)) → ReadsFields fs
  | [] => readsFields_nil
  | (_, v) :: fs => (reads v).field (readsFields fs)

end

/-- No two documents are printed alike. -/
theorem pretty_injective : Function.Injective pretty := by
  intro v w same
  have texts : v.render 0 ++ [] = w.render 0 ++ [] := by
    rw [List.append_nil, List.append_nil]
    exact String.ofList_injective same
  exact (v.reads Text.endsNumeral_nil Text.endsNumeral_nil texts).1

end Json

end QueryScan
