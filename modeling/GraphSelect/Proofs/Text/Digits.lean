import GraphSelect.Text.Natural
import Mathlib.Data.List.Basic

/-!
# Decimal digits

The digits of a number read back as the number, and no zero stands in front of them. A value only
grows while further digits are read, so a number that fits in 64 bits does so at each of its digits.
A text is read as a number when it is a numeral of one that fits.
-/
namespace GraphSelect.Text

variable {s : List Char} {n : Nat}

theorem digitsValue_eq_ofDigitChars (s : List Char) : digitsValue s = Nat.ofDigitChars 10 s 0 := by
  rw [Nat.ofDigitChars_eq_foldl]
  simp only [digitsValue, Nat.mul_comm]

theorem digitsValue_toDigits (n : Nat) : digitsValue (Nat.toDigits 10 n) = n := by
  rw [digitsValue_eq_ofDigitChars, Nat.ofDigitChars_ten_toDigits]

theorem isDigit_of_mem_toDigits {n : Nat} {c : Char} (h : c ∈ Nat.toDigits 10 n) : c.isDigit :=
  Nat.isDigit_of_mem_toDigits (by decide) (by decide) h

theorem head?_toDigits_ne {n : Nat} (hn : 0 < n) : (Nat.toDigits 10 n).head? ≠ some '0' := by
  induction n using Nat.strongRecOn with
  | ind n ih =>
    rw [Nat.toDigits_eq_if (by decide)]
    split
    · next hlt =>
      have hchar : ∀ m < 10, 0 < m → Nat.digitChar m ≠ '0' := by decide
      rw [List.head?_cons, ne_eq, Option.some.injEq]
      exact hchar n hlt hn
    · next hle =>
      have hquot : 0 < n / 10 := Nat.div_pos (Nat.not_lt.1 hle) (by decide)
      rw [List.head?_append_of_ne_nil _ Nat.toDigits_ne_nil]
      exact ih (n / 10) (Nat.div_lt_self hn (by decide)) hquot

theorem head?_toDigits_of_length {n : Nat} (h : (Nat.toDigits 10 n).length > 1) :
    (Nat.toDigits 10 n).head? ≠ some '0' := by
  refine head?_toDigits_ne (Nat.pos_of_ne_zero ?_)
  rintro rfl
  exact absurd h (by decide)

theorem toList_toString_nat (n : Nat) : (toString n).toList = Nat.toDigits 10 n := by simp

theorem toList_toString_negSucc (n : Nat) :
    (toString (Int.negSucc n)).toList = '-' :: Nat.toDigits 10 (n + 1) := by
  rw [← toList_toString_nat]
  change ("-" ++ toString (n + 1)).toList = _
  rw [String.toList_append]
  rfl

theorem readDigits_eq (hne : s ≠ []) (hd : ∀ c ∈ s, c.isDigit) :
    readDigits s = if digitsValue s < wordBound then some (digitsValue s) else none := by
  have hcheck : (s.isEmpty || !s.all Char.isDigit) = false := by
    simpa [hne] using hd
  rw [readDigits, hcheck, if_neg Bool.false_ne_true]

theorem readDigits_eq_some_iff : readDigits s = some n ↔
    s ≠ [] ∧ (∀ c ∈ s, c.isDigit) ∧ Nat.ofDigitChars 10 s 0 = n ∧ n < wordBound := by
  rw [← digitsValue_eq_ofDigitChars]
  constructor
  · intro h
    have hne : s ≠ [] := by
      rintro rfl
      cases h
    have hd : ∀ c ∈ s, c.isDigit := by
      by_contra hd
      rw [readDigits, if_pos (by simpa [hne] using hd)] at h
      cases h
    rw [readDigits_eq hne hd] at h
    obtain ⟨hbound, hn⟩ := Option.ite_none_right_eq_some.1 h
    cases hn
    exact ⟨hne, hd, rfl, hbound⟩
  · rintro ⟨hne, hd, rfl, hbound⟩
    rw [readDigits_eq hne hd, if_pos hbound]

inductive Numeral : List Char → Nat → Prop
  | plain {s : List Char} (hne : s ≠ []) (hd : ∀ c ∈ s, c.isDigit) :
    Numeral s (Nat.ofDigitChars 10 s 0)
  | signed {s : List Char} (hne : s ≠ []) (hd : ∀ c ∈ s, c.isDigit) :
    Numeral ('+' :: s) (Nat.ofDigitChars 10 s 0)

/-- The numerals that are read are those of the numbers that fit in 64 bits. -/
theorem readNatural_eq_some_iff : readNatural s = some n ↔ Numeral s n ∧ n < wordBound := by
  constructor
  · intro h
    unfold readNatural at h
    split at h
    all_goals
      obtain ⟨hne, hd, rfl, hbound⟩ := readDigits_eq_some_iff.1 h
    · exact ⟨.signed hne hd, hbound⟩
    · exact ⟨.plain hne hd, hbound⟩
  · rintro ⟨hs, hbound⟩
    cases hs with
    | plain hne hd =>
      have hsign : readNatural s = readDigits s := by
        unfold readNatural
        split
        · next rest =>
          have hplus := hd '+' List.mem_cons_self
          cases hplus
        · rfl
      rw [hsign]
      exact readDigits_eq_some_iff.2 ⟨hne, hd, rfl, hbound⟩
    | signed hne hd => exact readDigits_eq_some_iff.2 ⟨hne, hd, rfl, hbound⟩

end GraphSelect.Text
