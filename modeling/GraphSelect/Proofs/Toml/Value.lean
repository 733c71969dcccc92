import GraphSelect.Proofs.Text.Digits
import GraphSelect.Proofs.Text.Scan
import GraphSelect.Toml.Reader
import GraphSelect.Toml.Writer

/-!
# Words and integers in TOML

A word is made of the characters that names without marks are made of. Between quotation marks it
needs no escape, so it is written in the plainest way, and what is written is read as the word. The
digits of a number that fits in 64 bits with a sign are read as this number, when neither a hyphen
nor a colon behind them makes them the beginning of a date or a time.
-/
namespace GraphSelect.Toml

open Text

variable {c : Char} {s w whole : List Char} {n : Nat}

def Word (w : List Char) : Prop := w ≠ [] ∧ ∀ c ∈ w, isBareChar c

instance : DecidablePred Word := fun w =>
  decidable_of_iff (w ≠ [] ∧ w.all isBareChar = true) (by rw [Word, List.all_eq_true])

theorem Word.exists_cons (hw : Word w) : ∃ c rest, w = c :: rest ∧ isBareChar c := by
  obtain ⟨c, rest, rfl⟩ := List.exists_cons_of_ne_nil hw.1
  exact ⟨c, rest, rfl, hw.2 c List.mem_cons_self⟩

theorem toNat_of_isBareChar (hc : isBareChar c) : 0x2d ≤ c.toNat ∧ c.toNat ≤ 0x7a := by
  simp only [isBareChar, Bool.or_eq_true, decide_eq_true_eq] at hc
  rcases hc with (h | rfl) | rfl
  · have hn : (65 ≤ c.toNat ∧ c.toNat ≤ 90 ∨ 97 ≤ c.toNat ∧ c.toNat ≤ 122) ∨
        48 ≤ c.toNat ∧ c.toNat ≤ 57 := by
      delta Char.isAlphanum Char.isAlpha Char.isUpper Char.isLower at h
      simpa [Char.isDigit, UInt32.le_iff_toNat_le] using h
    omega
  all_goals decide

theorem isPlain_of_isBareChar (hc : isBareChar c) : isPlain c := by
  have hn := toNat_of_isBareChar hc
  simp only [isPlain, Bool.or_eq_true, Bool.and_eq_true, decide_eq_true_eq]
  omega

theorem isBlank_of_isBareChar (hc : isBareChar c) : isBlank c = false := by
  have hspace : c ≠ ' ' := ne_of_kind hc rfl
  have htab : c ≠ '\t' := ne_of_kind hc rfl
  simp [isBlank, hspace, htab]

theorem isBareChar_of_isDigit (hc : c.isDigit) : isBareChar c := by
  simp [isBareChar, Char.isAlphanum, hc]

theorem longestRun_of_notMem (hc : c ∉ w) : longestRun c w = 0 := by
  induction w with
  | nil => rfl
  | cons d w ih =>
    rw [List.mem_cons, not_or] at hc
    rw [longestRun, List.foldl_cons]
    dsimp only
    rw [if_neg (Ne.symm hc.1)]
    exact ih hc.2

theorem needsEscape_of_isBareChar (hc : isBareChar c) : needsEscape c = false := by
  have hn := toNat_of_isBareChar hc
  have hcontrol : (c.toNat < 0x20 || c.toNat = 0x7f) = false := by simp; omega
  rw [needsEscape, hcontrol, Bool.false_and, Bool.false_and]

theorem notMem_of_word {d : Char} (hw : Word w) (hd : isBareChar d = false) : d ∉ w := fun h =>
  ne_of_kind (hw.2 d h) hd rfl

theorem style_of_word (hw : Word w) : style w = .basic := by
  have hescape : w.any needsEscape = false := by
    rw [List.any_eq_false]
    intro c hc
    rw [needsEscape_of_isBareChar (hw.2 c hc)]
    exact Bool.false_ne_true
  have hmark : '"' ∉ w := notMem_of_word hw rfl
  have hbackslash : '\\' ∉ w := notMem_of_word hw rfl
  have hline : '\n' ∉ w := notMem_of_word hw rfl
  simp [style, hescape, hbackslash, hline, longestRun_of_notMem hmark]

theorem escapedChar_of_isBareChar (hc : isBareChar c) : escapedChar false c = [c] := by
  have hn := toNat_of_isBareChar hc
  have hcontrol : ¬ (c.toNat < 0x20 || c.toNat = 0x7f) = true := by simp; omega
  have hne : ∀ d, isBareChar d = false → c ≠ d := fun d => ne_of_kind hc
  rw [escapedChar, if_neg (hne _ rfl), if_neg (hne _ rfl), if_neg (hne _ rfl), if_neg (hne _ rfl),
    if_neg (hne _ rfl), if_neg (hne _ rfl), if_neg hcontrol]

theorem escaped_of_bare (hw : ∀ c ∈ w, isBareChar c) : escaped false 0 w = w := by
  induction w with
  | nil => rfl
  | cons c w ih =>
    have hc := hw c List.mem_cons_self
    rw [escaped, if_neg (ne_of_kind hc rfl), escapedChar_of_isBareChar hc,
      ih fun d hd => hw d (List.mem_cons_of_mem c hd)]
    rfl

theorem toList_quote {text : String} (hw : Word text.toList) :
    (quote text).toList = '"' :: (text.toList ++ ['"']) := by
  rw [quote, String.toList_ofList]
  simp only [style_of_word hw, escaped_of_bare hw.2]
  rfl

theorem run_lineChar (hc : isBareChar c) : (lineChar '"').run (c :: s) = .ok (some c, s) := by
  have hescape : ¬ (c = '\\' && escapes '"') = true := by
    simpa using fun h => absurd h (ne_of_kind hc rfl)
  have hplain : (isPlain c && decide (c ≠ '"')) = true := by
    simpa using ⟨isPlain_of_isBareChar hc, ne_of_kind hc rfl⟩
  unfold lineChar
  rw [Scan.run_bind, Scan.run_peek, List.head?_cons]
  dsimp only
  rw [if_neg hescape, if_pos hplain]
  rfl

theorem run_many_lineChar (hw : ∀ c ∈ w, isBareChar c) :
    (Scan.many (lineChar '"')).run (w ++ '"' :: s) = .ok (w, '"' :: s) := by
  induction w with
  | nil =>
    have hend : (lineChar '"').run ('"' :: s) = .ok (none, '"' :: s) := rfl
    rw [List.nil_append, Scan.run_many, hend]
  | cons c w ih =>
    rw [List.cons_append, Scan.run_many, run_lineChar (hw c List.mem_cons_self)]
    dsimp only
    rw [if_pos (by simp), ih fun d hd => hw d (List.mem_cons_of_mem c hd)]

theorem run_text (hw : Word w) :
    (text '"').run ('"' :: (w ++ '"' :: s)) = .ok (String.ofList w, s) := by
  obtain ⟨c, w, rfl, hbare⟩ := hw.exists_cons
  have hc : ('"' == c) = false := by
    simpa using (ne_of_kind hbare (d := '"') rfl).symm
  have hlines : (['"', '"', '"'] : List Char).isPrefixOf ('"' :: (c :: w ++ '"' :: s)) = false := by
    simp [List.isPrefixOf, hc]
  unfold text
  rw [Scan.run_bind, Scan.run_eatAll, hlines, if_neg Bool.false_ne_true]
  dsimp only
  rw [if_neg Bool.false_ne_true, Scan.run_bind, Scan.run_drop]
  dsimp only
  unfold lineText
  rw [List.drop_one, List.tail_cons, Scan.run_bind, run_many_lineChar hw.2]
  rfl

/-- Digits begin no date and no time, unless a hyphen or a colon comes behind them. -/
theorem run_dateTime?_of_digits (hdigits : ∀ c ∈ whole, c.isDigit) (hc : c.isDigit = false)
    (hhyphen : c ≠ '-') (hcolon : c ≠ ':') :
    dateTime?.run (whole ++ c :: s) = .ok (none, whole ++ c :: s) := by
  have hrest : (whole ++ c :: s).dropWhile Char.isDigit = c :: s :=
    (takeWhile_append_of_stopsAt (r := c :: s) hdigits ((stopsAt_some _ _).2 hc)).2
  unfold dateTime?
  rw [Scan.run_ahead_bind]
  split
  · next he =>
    split
    · next hall =>
      -- A hyphen behind four digits would be the character behind all of them.
      rw [he] at hrest
      simp only [List.all_cons, List.all_nil, Bool.and_true, Bool.and_eq_true] at hall
      obtain ⟨ha, hb, hc, hd⟩ := hall
      simp only [List.dropWhile_cons, ha, hb, hc, hd, if_true] at hrest
      exact absurd (List.cons.inj hrest).1.symm hhyphen
    · rfl
  · next he =>
    split
    · next hboth =>
      rw [he] at hrest
      rw [Bool.and_eq_true] at hboth
      simp only [List.dropWhile_cons, hboth.1, hboth.2, if_true] at hrest
      exact absurd (List.cons.inj hrest).1.symm hcolon
    · rfl
  · rfl

theorem run_digitRun (hne : whole ≠ []) (hdigits : ∀ c ∈ whole, c.isDigit) :
    (digitRun Char.isDigit).run (whole ++ '\n' :: s) = .ok (whole, '\n' :: s) := by
  have htake : (Scan.takeWhile Char.isDigit : Scan Unit _).run (whole ++ '\n' :: s) =
      .ok (whole, '\n' :: s) :=
    Scan.run_takeWhile_eq_ok_iff.2 ⟨rfl, hdigits, (stopsAt_some _ _).2 rfl⟩
  unfold digitRun
  refine Scan.run_bind_eq_ok_iff.2 ⟨whole, '\n' :: s, ?_, ?_⟩
  · rw [Scan.run_bind, htake]
    exact Scan.run_check_eq_ok_iff.2 ⟨by simpa using hne, rfl⟩
  · refine Scan.run_bind_eq_ok_iff.2 ⟨[], '\n' :: s, ?_, ?_⟩
    · rw [Scan.run_many]
      rfl
    · rw [List.flatten_nil, List.append_nil]
      rfl

theorem run_decimal (hne : whole ≠ []) (hdigits : ∀ c ∈ whole, c.isDigit)
    (hzero : whole.length > 1 → whole.head? ≠ some '0') (hword : isWord (digitsValue whole)) :
    (decimal false).run (whole ++ '\n' :: s) = .ok (.int (digitsValue whole), '\n' :: s) := by
  have hcheck : ¬ (whole.length > 1 && whole.head? = some '0') = true := by simpa using hzero
  unfold decimal
  refine Scan.run_bind_eq_ok_iff.2 ⟨whole, '\n' :: s, run_digitRun hne hdigits, ?_⟩
  refine Scan.run_check_eq_ok_iff.2 ⟨hcheck, ?_⟩
  have hvalue : inWord (digitsValue whole) = (pure (.int (digitsValue whole)) : Scan Unit Data) := by
    rw [inWord, if_pos hword]
  have hpoint : (Scan.eat '.' : Scan Unit _).run ('\n' :: s) = .ok (false, '\n' :: s) := rfl
  have hexponent : exponent?.run ('\n' :: s) = .ok (none, '\n' :: s) := rfl
  rw [Scan.run_bind, hpoint]
  dsimp only
  rw [if_neg Bool.false_ne_true, Scan.run_pure_bind, Scan.run_bind, hexponent]
  dsimp only
  rw [Option.isNone_none, Option.isNone_none, Bool.and_self, if_pos rfl,
    if_neg Bool.false_ne_true, hvalue]
  rfl

theorem isPrefixOf_digits_eq_false {d : Char} {mark : List Char} (hc : c.isDigit)
    (hd : d.isDigit = false) : (d :: mark).isPrefixOf (c :: s) = false := by
  have hne : (d == c) = false := by simpa using (ne_of_kind hc hd).symm
  rw [List.isPrefixOf, hne, Bool.false_and]

theorem isPrefixOf_base_eq_false {d : Char} (hdigits : ∀ c ∈ whole, c.isDigit)
    (hd : d.isDigit = false) (hline : d ≠ '\n') :
    ['0', d].isPrefixOf (whole ++ '\n' :: s) = false := by
  cases whole with
  | nil => rfl
  | cons a whole =>
    have hsecond : [d].isPrefixOf (whole ++ '\n' :: s) = false := by
      cases whole with
      | nil =>
        have hne : (d == '\n') = false := by simpa using hline
        rw [List.nil_append, List.isPrefixOf, hne, Bool.false_and]
      | cons b whole => exact isPrefixOf_digits_eq_false (hdigits b (by simp)) hd
    rw [List.cons_append, List.isPrefixOf, hsecond, Bool.and_false]

theorem run_number (hne : whole ≠ []) (hdigits : ∀ c ∈ whole, c.isDigit)
    (hzero : whole.length > 1 → whole.head? ≠ some '0') (hword : isWord (digitsValue whole)) :
    number.run (whole ++ '\n' :: s) = .ok (.int (digitsValue whole), '\n' :: s) := by
  have hread := run_decimal (s := s) hne hdigits hzero hword
  obtain ⟨c, rest, hwhole⟩ := List.exists_cons_of_ne_nil hne
  have hc : c.isDigit := hdigits c (by simp [hwhole])
  have hbase : ∀ d, d.isDigit = false → d ≠ '\n' →
      (Scan.eatAll ['0', d] : Scan Unit _).run (whole ++ '\n' :: s) =
        .ok (false, whole ++ '\n' :: s) := by
    intro d hd hline
    rw [Scan.run_eatAll, isPrefixOf_base_eq_false hdigits hd hline]
    rfl
  have hmark : ∀ d mark, d.isDigit = false →
      (Scan.eatAll (d :: mark) : Scan Unit _).run (whole ++ '\n' :: s) =
        .ok (false, whole ++ '\n' :: s) := by
    intro d mark hd
    rw [Scan.run_eatAll, hwhole, List.cons_append, isPrefixOf_digits_eq_false hc hd]
    rfl
  have hsign : ∀ d, d.isDigit = false →
      (Scan.eat d : Scan Unit _).run (whole ++ '\n' :: s) = .ok (false, whole ++ '\n' :: s) := by
    intro d hd
    rw [Scan.run_eat, if_neg]
    rw [hwhole, List.cons_append, List.head?_cons, Option.some.injEq]
    exact ne_of_kind hc hd
  unfold number signed
  refine Scan.run_bind_eq_ok_iff.2 ⟨false, _, hbase 'x' rfl (by decide), ?_⟩
  refine Scan.run_bind_eq_ok_iff.2 ⟨false, _, hbase 'o' rfl (by decide), ?_⟩
  refine Scan.run_bind_eq_ok_iff.2 ⟨false, _, hbase 'b' rfl (by decide), ?_⟩
  refine Scan.run_bind_eq_ok_iff.2 ⟨false, _, hsign '+' rfl, ?_⟩
  refine Scan.run_bind_eq_ok_iff.2 ⟨false, _, hsign '-' rfl, ?_⟩
  refine Scan.run_bind_eq_ok_iff.2 ⟨false, _, hmark 'i' _ rfl, ?_⟩
  exact Scan.run_bind_eq_ok_iff.2 ⟨false, _, hmark 'n' _ rfl, hread⟩

/-- A text in front of the end of a line that is read as a value. -/
structure Written (t : List Char) (d : Data) : Prop where
  startsWith : StartsWith (fun c => !isBlank c) t.head?
  run_value (s : List Char) : (value maxDepth).run (t ++ '\n' :: s) = .ok (d, '\n' :: s)

theorem written_quote {text : String} (hw : Word text.toList) :
    Written (quote text).toList (.text text) where
  startsWith := ⟨'"', by rw [toList_quote hw]; rfl, rfl⟩
  run_value s := by
    have hread := run_text (s := '\n' :: s) hw
    rw [String.ofList_toList] at hread
    have hpeek : (Scan.peek : Scan Unit _).run ('"' :: (text.toList ++ '"' :: '\n' :: s)) =
        .ok (some '"', '"' :: (text.toList ++ '"' :: '\n' :: s)) := rfl
    rw [toList_quote hw, List.cons_append, List.append_assoc]
    change (valueWith _).run _ = _
    unfold valueWith
    exact Scan.run_bind_eq_ok_iff.2 ⟨_, _, hpeek,
      Scan.run_bind_eq_ok_iff.2 ⟨_, _, hread, rfl⟩⟩

theorem run_valueWith_digit {inner : Scan Unit Data} (hc : c.isDigit) :
    (valueWith inner).run (c :: s) = dateOrNumber.run (c :: s) := by
  unfold valueWith
  rw [Scan.run_bind, Scan.run_peek, List.head?_cons]
  dsimp only
  split
  case h_7 => rfl
  all_goals
    next e =>
      cases e
      cases hc

theorem written_toString (hn : n < signedBound) : Written (toString n).toList (.int n) := by
  obtain ⟨c, rest, hdigits⟩ := List.exists_cons_of_ne_nil (Nat.toDigits_ne_nil (b := 10) (n := n))
  have hall : ∀ d ∈ Nat.toDigits 10 n, d.isDigit := fun d => isDigit_of_mem_toDigits
  have hc : c.isDigit := hall c (by rw [hdigits]; exact List.mem_cons_self)
  have hword : isWord (digitsValue (Nat.toDigits 10 n)) := by
    rw [digitsValue_toDigits]
    simp only [isWord, Bool.and_eq_true, decide_eq_true_eq]
    omega
  rw [toList_toString_nat]
  constructor
  · exact ⟨c, by rw [hdigits]; rfl, by simp [isBlank_of_isBareChar (isBareChar_of_isDigit hc)]⟩
  · intro s
    have hnumber := run_number (s := s) Nat.toDigits_ne_nil hall head?_toDigits_of_length hword
    have hnoDate : dateTime?.run (Nat.toDigits 10 n ++ '\n' :: s) =
        .ok (none, Nat.toDigits 10 n ++ '\n' :: s) :=
      run_dateTime?_of_digits hall rfl (by decide) (by decide)
    rw [digitsValue_toDigits] at hnumber
    have hvalue : (value maxDepth).run (Nat.toDigits 10 n ++ '\n' :: s) =
        dateOrNumber.run (Nat.toDigits 10 n ++ '\n' :: s) := by
      rw [hdigits]
      exact run_valueWith_digit hc
    rw [hvalue]
    exact Scan.run_bind_eq_ok_iff.2 ⟨none, _, hnoDate, hnumber⟩

end GraphSelect.Toml
