import GraphSelect.Json.Reader
import GraphSelect.Proofs.Text.Digits
import GraphSelect.Proofs.Text.Scan

/-!
# Integers in JSON

The text of an integer that fits in 64 bits with its sign is a number in JSON, and it is read as that
integer: its digits fit, no zero stands in front of them, and zero has no sign.
-/
namespace GraphSelect.Json

open Text

variable {s whole : List Char} {d : Data} {n : Nat} {i : Int}

/-- A value does not shrink while further digits are read. -/
theorem le_foldl_digits (n : Nat) (s : List Char) :
    n ≤ s.foldl (fun n c => n * 10 + (c.toNat - '0'.toNat)) n := by
  induction s generalizing n with
  | nil => exact Nat.le_refl n
  | cons c s ih =>
    rw [List.foldl_cons]
    have hrest := ih (n * 10 + (c.toNat - '0'.toNat))
    omega

/-- Digits whose value fits are gathered to the last. -/
theorem gather_of_lt (h : s.foldl (fun n c => n * 10 + (c.toNat - '0'.toNat)) n < wordBound) :
    gather n s = (s.foldl (fun n c => n * 10 + (c.toNat - '0'.toNat)) n, []) := by
  induction s generalizing n with
  | nil => rfl
  | cons c s ih =>
    rw [List.foldl_cons] at h ⊢
    have hstep : n * 10 + (c.toNat - '0'.toNat) < wordBound :=
      Nat.lt_of_le_of_lt (le_foldl_digits _ s) h
    rw [gather, if_pos hstep]
    exact ih h

theorem gather_toDigits (h : n < wordBound) : gather 0 (Nat.toDigits 10 n) = (n, []) := by
  have hvalue := digitsValue_toDigits n
  rw [digitsValue] at hvalue
  rw [gather_of_lt (by rwa [hvalue]), hvalue]

theorem data?_toDigits (negative : Bool) (h : n < wordBound) :
    NumberText.data? ⟨negative, Nat.toDigits 10 n, none, none⟩ =
      if !negative then some (.int n)
      else if n = 0 || signedBound < n then some (.float (-n.toUInt64.toFloat))
      else some (.int (-n)) := by
  unfold NumberText.data?
  simp only [gather_toDigits h]
  rfl

theorem run_digits1 (hne : whole ≠ []) (hdigits : ∀ c ∈ whole, c.isDigit) :
    digits1.run whole = .ok (whole, []) := by
  have htake : (Scan.takeWhile Char.isDigit : Scan Unit _).run whole = .ok (whole, []) :=
    Scan.run_takeWhile_eq_ok_iff.2 ⟨(List.append_nil whole).symm, hdigits, stopsAt_none _⟩
  unfold digits1
  rw [Scan.run_bind, htake]
  exact Scan.run_check_eq_ok_iff.2 ⟨by simpa using hne, rfl⟩

theorem run_number (negative : Bool) (hne : whole ≠ []) (hdigits : ∀ c ∈ whole, c.isDigit)
    (hzero : whole.length > 1 → whole.head? ≠ some '0')
    (hdata : NumberText.data? ⟨negative, whole, none, none⟩ = some d) :
    number.run ((if negative then ['-'] else []) ++ whole) = .ok (d, []) := by
  have hsign : (Scan.eat '-' : Scan Unit _).run ((if negative then ['-'] else []) ++ whole) =
      .ok (negative, whole) := by
    have hhead : whole.head? ≠ some '-' := by
      intro h
      have hdigit := hdigits '-' (List.mem_of_head? h)
      cases hdigit
    cases negative with
    | true => rw [Scan.run_eat]; rfl
    | false => simp [Scan.run_eat, hhead]
  have hcheck : ¬ (whole.length > 1 && whole.head? = some '0') = true := by
    simpa using hzero
  unfold number
  refine Scan.run_bind_eq_ok_iff.2 ⟨negative, whole, hsign, ?_⟩
  refine Scan.run_bind_eq_ok_iff.2 ⟨whole, [], run_digits1 hne hdigits, ?_⟩
  refine Scan.run_check_eq_ok_iff.2 ⟨hcheck, ?_⟩
  simp [Scan.run_bind, hdata]

theorem run_blanks_of_stopsAt (hs : StopsAt isBlank s.head?) : blanks.run s = .ok ((), s) := by
  have htake : (Scan.takeWhile isBlank : Scan Unit _).run s = .ok ([], s) :=
    Scan.run_takeWhile_eq_ok_iff.2 ⟨rfl, nofun, hs⟩
  unfold blanks
  rw [Scan.run_bind, htake]
  rfl

def startsNumber (c : Char) : Bool := c.isDigit || c = '-'

theorem isBlank_of_startsNumber {c : Char} (hc : startsNumber c) : isBlank c = false := by
  cases hblank : isBlank c with
  | false => rfl
  | true =>
    simp only [isBlank, Bool.or_eq_true, decide_eq_true_eq] at hblank
    rcases hblank with ((rfl | rfl) | rfl) | rfl <;> cases hc

theorem run_valueWith_number {inner : Scan Unit Data} (hs : StartsWith startsNumber s.head?)
    (h : number.run s = .ok (d, [])) : (valueWith inner).run s = .ok (d, []) := by
  have hblanks := run_blanks_of_stopsAt (hs.stopsAt fun _ => isBlank_of_startsNumber)
  have hend : blanks.run [] = .ok ((), []) := rfl
  obtain ⟨c, hhead, hc⟩ := hs
  unfold valueWith
  rw [Scan.run_bind, hblanks]
  dsimp only
  rw [Scan.run_bind, Scan.run_peek, hhead]
  dsimp only
  split
  case h_7 => exact Scan.run_bind_eq_ok_iff.2 ⟨d, [], h, Scan.run_bind_eq_ok_iff.2 ⟨(), [], hend, rfl⟩⟩
  all_goals
    next e =>
      cases e
      cases hc

theorem read?_of_number {text : String} (hs : StartsWith startsNumber text.toList.head?)
    (h : number.run text.toList = .ok (d, [])) : read? text = some d := by
  have hvalue : (value maxDepth).run text.toList = .ok (d, []) := run_valueWith_number hs h
  rw [read?, hvalue]

theorem startsWith_toDigits (n : Nat) : StartsWith startsNumber (Nat.toDigits 10 n).head? := by
  obtain ⟨c, rest, h⟩ := List.exists_cons_of_ne_nil (Nat.toDigits_ne_nil (b := 10) (n := n))
  have hc : c.isDigit := isDigit_of_mem_toDigits (n := n) (by rw [h]; exact List.mem_cons_self)
  exact ⟨c, by rw [h]; rfl, by simp [startsNumber, hc]⟩

/-- The text of an integer of 64 bits is read as this integer. -/
theorem read?_toString (hi : isWord i) : read? (toString i) = some (.int i) := by
  obtain ⟨hlow, hhigh⟩ : -(signedBound : Int) ≤ i ∧ i < signedBound := by
    simpa [isWord] using hi
  cases i with
  | ofNat n =>
    have htext : (toString (Int.ofNat n)).toList = Nat.toDigits 10 n := toList_toString_nat n
    have hlt : n < wordBound := by
      have hword : signedBound ≤ wordBound := by decide
      simp only [Int.ofNat_eq_natCast] at hhigh
      omega
    refine read?_of_number ?_ ?_
    · rw [htext]
      exact startsWith_toDigits n
    · rw [htext]
      exact run_number false Nat.toDigits_ne_nil (fun _ => isDigit_of_mem_toDigits)
        head?_toDigits_of_length (data?_toDigits false hlt)
  | negSucc n =>
    have htext := toList_toString_negSucc n
    have hle : n + 1 ≤ signedBound := by
      simp only [Int.negSucc_eq] at hlow
      omega
    have hlt : n + 1 < wordBound := Nat.lt_of_le_of_lt hle (by decide)
    have hdata : NumberText.data? ⟨true, Nat.toDigits 10 (n + 1), none, none⟩ =
        some (.int (Int.negSucc n)) := by
      rw [data?_toDigits true hlt]
      have hrange : ¬ (n + 1 = 0 || signedBound < n + 1) = true := by
        simpa using hle
      rw [if_neg (by decide), if_neg hrange]
      rfl
    refine read?_of_number ?_ ?_
    · rw [htext]
      exact ⟨'-', rfl, rfl⟩
    · rw [htext]
      exact run_number true Nat.toDigits_ne_nil (fun _ => isDigit_of_mem_toDigits)
        head?_toDigits_of_length hdata

end GraphSelect.Json
