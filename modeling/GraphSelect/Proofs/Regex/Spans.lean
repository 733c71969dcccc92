import GraphSelect.Regex.Match
import Mathlib.Data.Nat.Bitwise

/-!
# What a match is

An expression matches the text between two places, or does not: characters by membership, a
sequence by a place between its parts, a repetition by a row of places. The matcher computes with
whole sets of places; a place is in the set it gives exactly when the text up to it matches from one
of the places it began with. A repetition without a bound needs no more rounds than the text has
places, since places never go back and a round that stays where it is can be left out.
-/
namespace GraphSelect.Regex

def Steps (r : Nat → Nat → Prop) : Nat → Nat → Nat → Prop
  | 0, i, j => i = j
  | n + 1, i, j => ∃ k, r i k ∧ Steps r n k j

def charBefore (text : List Char) : Nat → Option Char
  | 0 => none
  | i + 1 => text[i]?

/-- Whether an expression matches the text between two places. -/
def Expr.Spans (text : List Char) : Expr → Nat → Nat → Prop
  | empty, i, j => i = j
  | set s, i, j => j = i + 1 ∧ ∃ c, text[i]? = some c ∧ s.contains c
  | look l, i, j => i = j ∧ i ≤ text.length ∧ l.holds (charBefore text i) text[i]?
  | seq a b, i, j => ∃ k, a.Spans text i k ∧ b.Spans text k j
  | alt a b, i, j => a.Spans text i j ∨ b.Spans text i j
  | many lo hi e, i, j =>
    ∃ n, lo ≤ n ∧ (∀ h, hi = some h → n ≤ max lo h) ∧ Steps (e.Spans text) n i j

namespace Steps

variable {r : Nat → Nat → Prop} {m n i j k : Nat}

theorem append (h : Steps r m i k) (h' : Steps r n k j) : Steps r (m + n) i j := by
  induction m generalizing i with
  | zero =>
    cases h
    rwa [Nat.zero_add]
  | succ m ih =>
    obtain ⟨l, hl, h⟩ := h
    rw [Nat.succ_add]
    exact ⟨l, hl, ih h⟩

theorem exists_of_add (h : Steps r (m + n) i j) : ∃ k, Steps r m i k ∧ Steps r n k j := by
  induction m generalizing i with
  | zero => exact ⟨i, rfl, by rwa [Nat.zero_add] at h⟩
  | succ m ih =>
    rw [Nat.succ_add] at h
    obtain ⟨l, hl, h⟩ := h
    obtain ⟨k, hm, hn⟩ := ih h
    exact ⟨k, ⟨l, hl, hm⟩, hn⟩

/-- Where no step goes back, those that go on are enough. -/
theorem exists_le_sub (hr : ∀ i k, r i k → i ≤ k) (h : Steps r n i j) :
    i ≤ j ∧ ∃ m ≤ j - i, Steps r m i j := by
  induction n generalizing i with
  | zero =>
    cases h
    exact ⟨Nat.le_refl _, 0, Nat.zero_le _, rfl⟩
  | succ n ih =>
    obtain ⟨k, hk, h⟩ := h
    obtain ⟨hkj, m, hm, hsteps⟩ := ih h
    have hik := hr _ k hk
    refine ⟨Nat.le_trans hik hkj, ?_⟩
    rcases Nat.eq_or_lt_of_le hik with rfl | hlt
    · exact ⟨m, hm, hsteps⟩
    · exact ⟨m + 1, by omega, k, hk, hsteps⟩

theorem le_of_lt {length : Nat} (hr : ∀ i k, r i k → i ≤ k ∧ (i < k → k ≤ length))
    (h : Steps r n i j) (hlt : i < j) : j ≤ length := by
  induction n generalizing i with
  | zero =>
    cases h
    exact absurd hlt (Nat.lt_irrefl _)
  | succ n ih =>
    obtain ⟨k, hk, h⟩ := h
    rcases Nat.lt_or_ge k j with hkj | hjk
    · exact ih h hkj
    · have hle := (h.exists_le_sub fun i k h => (hr i k h).1).1
      have hkj : k = j := Nat.le_antisymm hle hjk
      rw [← hkj] at hlt ⊢
      exact (hr _ k hk).2 hlt

end Steps

namespace Expr

variable {text : List Char} {e : Expr} {i j : Nat}

/-- A match does not go back, and ends inside the text if it is not empty. -/
theorem Spans.le (h : e.Spans text i j) : i ≤ j ∧ (i < j → j ≤ text.length) := by
  induction e generalizing i j with
  | empty =>
    cases h
    omega
  | set s =>
    obtain ⟨rfl, c, hc, -⟩ := h
    have hi := (List.getElem?_eq_some_iff.1 hc).1
    omega
  | look l =>
    obtain ⟨rfl, -⟩ := h
    omega
  | seq a b iha ihb =>
    obtain ⟨k, ha, hb⟩ := h
    have hik := iha ha
    have hkj := ihb hb
    refine ⟨Nat.le_trans hik.1 hkj.1, fun hij => ?_⟩
    rcases Nat.eq_or_lt_of_le hkj.1 with rfl | hlt
    · exact hik.2 hij
    · exact hkj.2 hlt
  | alt a b iha ihb =>
    rcases h with h | h
    · exact iha h
    · exact ihb h
  | many lo hi e ih =>
    obtain ⟨n, -, -, h⟩ := h
    exact ⟨(h.exists_le_sub fun i k hk => (ih hk).1).1, h.le_of_lt fun i k hk => ih hk⟩

end Expr

/-- What a step on sets of places has to do with a relation between places. -/
def Follows (step : Nat → Nat) (r : Nat → Nat → Prop) : Prop :=
  ∀ starts j, (step starts).testBit j ↔ ∃ i, starts.testBit i ∧ r i j

theorem testBit_toNat_add_two_mul (b : Bool) (n i : Nat) :
    (b.toNat + 2 * n).testBit i = if i = 0 then b else n.testBit (i - 1) := by
  cases i with
  | zero => cases b <;> simp [Nat.testBit_zero, Nat.add_mod]
  | succ i =>
    have hb := b.toNat_lt
    have hhalf : (b.toNat + 2 * n) / 2 = n := by omega
    rw [Nat.testBit_succ, hhalf]
    simp

theorem testBit_places (p : Option Char → Option Char → Bool) (before : Option Char)
    (text : List Char) (i : Nat) :
    (places p before text).testBit i ↔
      i ≤ text.length ∧ p (if i = 0 then before else text[i - 1]?) text[i]? := by
  induction text generalizing before i with
  | nil =>
    rw [places]
    cases i with
    | zero => cases h : p before none <;> simp [h]
    | succ i => cases h : p before none <;> simp [Nat.testBit_succ]
  | cons c text ih =>
    rw [places, testBit_toNat_add_two_mul]
    cases i with
    | zero => simp
    | succ i =>
      rw [if_neg (Nat.succ_ne_zero i), Nat.add_sub_cancel, ih]
      cases i <;> simp

namespace Follows

variable {step : Nat → Nat} {r : Nat → Nat → Prop}

theorem repeatStep (h : Follows step r) (n : Nat) :
    Follows (repeatStep step n) (Steps r n) := by
  induction n with
  | zero =>
    intro starts j
    exact ⟨fun hj => ⟨j, hj, rfl⟩, fun ⟨i, hi, hij⟩ => hij ▸ hi⟩
  | succ n ih =>
    intro starts j
    rw [Regex.repeatStep]
    split
    · next hzero =>
      subst hzero
      simp
    · rw [ih]
      constructor
      · rintro ⟨k, hk, hkj⟩
        obtain ⟨i, hi, hik⟩ := (h starts k).1 hk
        exact ⟨i, hi, k, hik, hkj⟩
      · rintro ⟨i, hi, k, hik, hkj⟩
        exact ⟨k, (h starts k).2 ⟨i, hi, hik⟩, hkj⟩

/-- Places that a step leads nowhere new from are left by no row of steps. -/
theorem testBit_of_closed (h : Follows step r) {starts n i j : Nat}
    (hclosed : starts ||| step starts = starts) (hi : starts.testBit i) (hsteps : Steps r n i j) :
    starts.testBit j := by
  induction n generalizing i with
  | zero =>
    cases hsteps
    exact hi
  | succ n ih =>
    obtain ⟨k, hik, hsteps⟩ := hsteps
    refine ih ?_ hsteps
    rw [← hclosed, Nat.testBit_or, (h starts k).2 ⟨i, hi, hik⟩, Bool.or_true]

theorem spread (h : Follows step r) (n : Nat) :
    Follows (spread step n) fun i j => ∃ m ≤ n, Steps r m i j := by
  induction n with
  | zero =>
    intro starts j
    constructor
    · exact fun hj => ⟨j, hj, 0, Nat.le_refl 0, rfl⟩
    · rintro ⟨i, hi, m, hm, hsteps⟩
      cases Nat.le_zero.1 hm
      cases hsteps
      exact hi
  | succ n ih =>
    intro starts j
    rw [Regex.spread]
    split
    · next hclosed =>
      constructor
      · exact fun hj => ⟨j, hj, 0, Nat.zero_le _, rfl⟩
      · rintro ⟨i, hi, m, -, hsteps⟩
        exact h.testBit_of_closed hclosed hi hsteps
    · rw [ih]
      constructor
      · rintro ⟨k, hk, m, hm, hsteps⟩
        rw [Nat.testBit_or, Bool.or_eq_true] at hk
        rcases hk with hk | hk
        · exact ⟨k, hk, m, Nat.le_succ_of_le hm, hsteps⟩
        · obtain ⟨i, hi, hik⟩ := (h starts k).1 hk
          exact ⟨i, hi, m + 1, Nat.succ_le_succ hm, k, hik, hsteps⟩
      · rintro ⟨i, hi, m, hm, hsteps⟩
        cases m with
        | zero => exact ⟨i, by rw [Nat.testBit_or, hi, Bool.true_or], 0, Nat.zero_le n, hsteps⟩
        | succ m =>
          obtain ⟨k, hik, hsteps⟩ := hsteps
          refine ⟨k, ?_, m, Nat.le_of_succ_le_succ hm, hsteps⟩
          rw [Nat.testBit_or, (h starts k).2 ⟨i, hi, hik⟩, Bool.or_true]

end Follows

namespace Expr

variable {text : List Char} {e : Expr}

/-- The bounds of a repetition, from the first rounds that it must have and the rest. -/
theorem spans_many_iff {lo : Nat} {hi : Option Nat} {i j : Nat} :
    (many lo hi e).Spans text i j ↔
      ∃ k, Steps (e.Spans text) lo i k ∧
        ∃ m ≤ hi.elim (text.length + 1) (· - lo), Steps (e.Spans text) m k j := by
  constructor
  · rintro ⟨n, hlo, hhi, hsteps⟩
    obtain ⟨m, rfl⟩ := Nat.exists_eq_add_of_le hlo
    obtain ⟨k, hk, hm⟩ := hsteps.exists_of_add
    refine ⟨k, hk, ?_⟩
    cases hi with
    | some h =>
      have hle := hhi h rfl
      exact ⟨m, by simp only [Option.elim_some]; omega, hm⟩
    | none =>
      obtain ⟨hkj, m', hm', hsteps⟩ := hm.exists_le_sub fun i k h => h.le.1
      refine ⟨m', ?_, hsteps⟩
      rcases Nat.eq_or_lt_of_le hkj with rfl | hlt
      · omega
      · have hend := hm.le_of_lt (fun i k h => h.le) hlt
        simp only [Option.elim_none]
        omega
  · rintro ⟨k, hk, m, hm, hsteps⟩
    refine ⟨lo + m, Nat.le_add_right lo m, ?_, hk.append hsteps⟩
    rintro h rfl
    simp only [Option.elim_some] at hm
    omega

/-- The matcher goes exactly where the text matches. -/
theorem follows_ends (text : List Char) (e : Expr) : Follows (e.ends text) (e.Spans text) := by
  induction e with
  | empty =>
    intro starts j
    exact ⟨fun hj => ⟨j, hj, rfl⟩, fun ⟨i, hi, hij⟩ => hij ▸ hi⟩
  | set s =>
    intro starts j
    rw [ends, Nat.testBit_shiftLeft]
    cases j with
    | zero => simp [Spans]
    | succ j =>
      rw [Nat.add_sub_cancel, Nat.testBit_and, Bool.and_eq_true, Bool.and_eq_true, testBit_places]
      simp only [Option.any_eq_true, Spans]
      constructor
      · rintro ⟨-, hj, -, c, hc, hs⟩
        exact ⟨j, hj, rfl, c, hc, hs⟩
      · rintro ⟨i, hi, hij, c, hc, hs⟩
        cases hij
        have hlt := (List.getElem?_eq_some_iff.1 hc).1
        exact ⟨by simp, hi, Nat.le_of_lt hlt, c, hc, hs⟩
  | look l =>
    intro starts j
    have hbefore : (if j = 0 then none else text[j - 1]?) = charBefore text j := by
      cases j <;> rfl
    rw [ends, Nat.testBit_and, Bool.and_eq_true, testBit_places, hbefore]
    constructor
    · rintro ⟨hj, hle, hl⟩
      exact ⟨j, hj, rfl, hle, hl⟩
    · rintro ⟨i, hi, rfl, hle, hl⟩
      exact ⟨hi, hle, hl⟩
  | seq a b iha ihb =>
    intro starts j
    rw [ends, ihb]
    constructor
    · rintro ⟨k, hk, hkj⟩
      obtain ⟨i, hi, hik⟩ := (iha starts k).1 hk
      exact ⟨i, hi, k, hik, hkj⟩
    · rintro ⟨i, hi, k, hik, hkj⟩
      exact ⟨k, (iha starts k).2 ⟨i, hi, hik⟩, hkj⟩
  | alt a b iha ihb =>
    intro starts j
    rw [ends, Nat.testBit_or, Bool.or_eq_true, iha, ihb]
    simp only [Spans, and_or_left, exists_or]
  | many lo hi e ih =>
    intro starts j
    rw [ends, ih.spread]
    constructor
    · rintro ⟨k, hk, hkj⟩
      obtain ⟨i, hi, hik⟩ := (ih.repeatStep lo starts k).1 hk
      exact ⟨i, hi, spans_many_iff.2 ⟨k, hik, hkj⟩⟩
    · rintro ⟨i, hi, hspans⟩
      obtain ⟨k, hik, hkj⟩ := spans_many_iff.1 hspans
      exact ⟨k, (ih.repeatStep lo starts k).2 ⟨i, hi, hik⟩, hkj⟩

/-- A pattern matches somewhere in a text when it matches between two places of it. -/
theorem occursIn_iff : e.occursIn text ↔ ∃ i j, i ≤ text.length ∧ e.Spans text i j := by
  have hall : ∀ i, (Nat.pow 2 (text.length + 1) - 1).testBit i ↔ i ≤ text.length := by
    intro i
    rw [Nat.pow_eq, Nat.testBit_two_pow_sub_one, decide_eq_true_iff, Nat.lt_succ_iff]
  rw [occursIn, decide_eq_true_iff]
  constructor
  · intro hne
    obtain ⟨j, hj⟩ := Nat.exists_testBit_of_ne_zero hne
    obtain ⟨i, hi, hspans⟩ := (follows_ends text e _ j).1 hj
    exact ⟨i, j, (hall i).1 hi, hspans⟩
  · rintro ⟨i, j, hi, hspans⟩ hzero
    have hj := (follows_ends text e _ j).2 ⟨i, (hall i).2 hi, hspans⟩
    rw [hzero, Nat.zero_testBit] at hj
    cases hj

/-- An expression between the two ends of the text matches somewhere when it matches all of it. -/
theorem occursIn_between_ends :
    (seq (look .textStart) (seq e (seq (look .textEnd) empty))).occursIn text ↔
      e.Spans text 0 text.length := by
  rw [occursIn_iff]
  constructor
  · rintro ⟨i, j, hi, k, ⟨rfl, -, hstart⟩, l, he, m, ⟨rfl, hle, hend⟩, -⟩
    have hi₀ : i = 0 := by
      cases i with
      | zero => rfl
      | succ i =>
        rw [charBefore, List.getElem?_eq_getElem (Nat.lt_of_succ_le hi)] at hstart
        cases hstart
    have hl : l = text.length := by
      rw [Look.holds, Option.isNone_iff_eq_none, List.getElem?_eq_none_iff] at hend
      exact Nat.le_antisymm hle hend
    rw [hi₀, hl] at he
    exact he
  · intro h
    refine ⟨0, text.length, Nat.zero_le _, 0, ⟨rfl, Nat.zero_le _, rfl⟩, text.length, h,
      text.length, ⟨rfl, Nat.le_refl _, ?_⟩, rfl⟩
    rw [Look.holds, List.getElem?_eq_none (Nat.le_refl _)]
    rfl

end Expr

end GraphSelect.Regex
