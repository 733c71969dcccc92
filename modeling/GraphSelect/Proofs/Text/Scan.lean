import GraphSelect.Text.Blank
import GraphSelect.Text.Scan
import Mathlib.Data.List.Infix
import Mathlib.Data.List.TakeWhile

/-!
# What readers accept

A statement about a reader says which texts it takes off the front, and what it makes of them. The
sequence of two readers takes one text and then the other; a reader of the longest run of some
characters takes a text of such characters when the next character is not one of them. Blanks
around a text are told apart from the text itself by trimming.
-/
namespace GraphSelect.Text

variable {ε α β : Type}

theorem ne_of_kind {p : Char → Bool} {c d : Char} (hc : p c) (hd : p d = false) : c ≠ d := by
  rintro rfl
  rw [hc] at hd
  cases hd

/-- What stands ahead does not begin with a character of a kind. -/
def StopsAt (p : Char → Bool) (next : Option Char) : Prop := ∀ c, next = some c → p c = false

@[simp] theorem stopsAt_none (p : Char → Bool) : StopsAt p none := nofun

@[simp] theorem stopsAt_some (p : Char → Bool) (c : Char) : StopsAt p (some c) ↔ p c = false := by
  simp [StopsAt]

theorem any_eq_false_iff_stopsAt {p : Char → Bool} {next : Option Char} :
    next.any p = false ↔ StopsAt p next := by
  cases next <;> simp

def StartsWith (p : Char → Bool) (next : Option Char) : Prop := ∃ c, next = some c ∧ p c

theorem StartsWith.ne {p : Char → Bool} {next : Option Char} {d : Char} (h : StartsWith p next)
    (hd : p d = false) : next ≠ some d := by
  obtain ⟨c, rfl, hc⟩ := h
  exact fun he => ne_of_kind hc hd (Option.some.inj he)

theorem StartsWith.stopsAt {p q : Char → Bool} {next : Option Char} (h : StartsWith p next)
    (hpq : ∀ c, p c → q c = false) : StopsAt q next := by
  obtain ⟨c, rfl, hc⟩ := h
  exact (stopsAt_some q c).2 (hpq c hc)

theorem StopsAt.mono {p q : Char → Bool} {next : Option Char} (h : StopsAt q next)
    (hpq : ∀ c, p c → q c) : StopsAt p next := by
  intro c hc
  have hq := h c hc
  cases hp : p c with
  | false => rfl
  | true => rw [hpq c hp] at hq; cases hq

theorem StartsWith.mono {p q : Char → Bool} {next : Option Char} (h : StartsWith p next)
    (hpq : ∀ c, p c → q c) : StartsWith q next := by
  obtain ⟨c, hc, hp⟩ := h
  exact ⟨c, hc, hpq c hp⟩

theorem StopsAt.of_append {p : Char → Bool} {t r : List Char} (h : StopsAt p (t ++ r).head?) :
    StopsAt p t.head? := by
  intro c hc
  apply h
  rw [List.head?_append, hc]
  rfl

theorem StopsAt.append {p : Char → Bool} {t r : List Char} (ht : StopsAt p t.head?)
    (hr : StopsAt p r.head?) : StopsAt p (t ++ r).head? := by
  cases t with
  | nil => exact hr
  | cons c t => exact ht

theorem StartsWith.append {p : Char → Bool} {t : List Char} (h : StartsWith p t.head?)
    (r : List Char) : StartsWith p (t ++ r).head? := by
  obtain ⟨c, hc, hp⟩ := h
  exact ⟨c, by rw [List.head?_append, hc]; rfl, hp⟩

theorem stopsAt_dropWhile (p : Char → Bool) (s : List Char) :
    StopsAt p (s.dropWhile p).head? := by
  intro c hc
  have h := List.head?_dropWhile_not p s
  rw [hc] at h
  simpa using h

theorem takeWhile_append_of_stopsAt {p : Char → Bool} {t r : List Char} (ht : ∀ c ∈ t, p c)
    (hr : StopsAt p r.head?) : (t ++ r).takeWhile p = t ∧ (t ++ r).dropWhile p = r := by
  rw [List.takeWhile_append_of_pos ht, List.dropWhile_append_of_pos ht]
  cases r with
  | nil => simp
  | cons c r =>
    rw [List.head?_cons, stopsAt_some] at hr
    simp [hr]

def Blanks (t : List Char) : Prop := ∀ c ∈ t, isBlank c

/-- No blank stands at either end of a text. -/
def Trimmed (t : List Char) : Prop := StopsAt isBlank t.head? ∧ StopsAt isBlank t.getLast?

@[simp] theorem blanks_nil : Blanks [] := nofun

theorem Blanks.append {a b : List Char} (ha : Blanks a) (hb : Blanks b) : Blanks (a ++ b) := by
  intro c hc
  rcases List.mem_append.1 hc with hc | hc
  · exact ha c hc
  · exact hb c hc

theorem Blanks.stopsAt {p : Char → Bool} {b : List Char} (hb : Blanks b)
    (hp : ∀ c, isBlank c → p c = false) : StopsAt p b.head? :=
  fun c hc => hp c (hb c (List.mem_of_head? hc))

theorem skipBlanks_append {a t : List Char} (ha : Blanks a) (ht : StopsAt isBlank t.head?) :
    skipBlanks (a ++ t) = t := (takeWhile_append_of_stopsAt ha ht).2

theorem skipBlanks_blanks {a : List Char} (ha : Blanks a) : skipBlanks a = [] := by
  have h := skipBlanks_append (t := []) ha (stopsAt_none isBlank)
  rwa [List.append_nil] at h

theorem exists_skipBlanks (s : List Char) :
    ∃ a, s = a ++ skipBlanks s ∧ Blanks a ∧ StopsAt isBlank (skipBlanks s).head? :=
  ⟨s.takeWhile isBlank, List.takeWhile_append_dropWhile.symm, fun _ => List.mem_takeWhile_imp,
    stopsAt_dropWhile isBlank s⟩

theorem trim_append {a t b : List Char} (ha : Blanks a) (ht : Trimmed t) (hb : Blanks b) :
    trim (a ++ t ++ b) = t := by
  rw [List.append_assoc, trim]
  by_cases h : t = []
  · subst h
    rw [List.nil_append, skipBlanks_blanks (ha.append hb)]
    rfl
  · have hhead : (t ++ b).head? = t.head? := by
      cases t with
      | nil => exact absurd rfl h
      | cons c t => rfl
    have hb' : ∀ c ∈ b.reverse, isBlank c := fun c hc => hb c (List.mem_reverse.1 hc)
    have hlast : StopsAt isBlank t.reverse.head? := by
      rw [List.head?_reverse]
      exact ht.2
    rw [skipBlanks_append ha (by rw [hhead]; exact ht.1), trimEnd, List.reverse_append,
      (takeWhile_append_of_stopsAt hb' hlast).2, List.reverse_reverse]

/-- What trimming takes away behind a text are blanks, and none are left at its end. -/
theorem exists_trim {s : List Char} (hs : StopsAt isBlank s.head?) :
    ∃ b, s = trim s ++ b ∧ Blanks b ∧ Trimmed (trim s) := by
  obtain ⟨b, hr, hb, hlast⟩ := exists_skipBlanks s.reverse
  have hskip : skipBlanks s = s := skipBlanks_append blanks_nil hs
  have htrim : trim s = (skipBlanks s.reverse).reverse := by
    rw [trim, hskip]
    rfl
  have hs' : s = trim s ++ b.reverse := by
    rw [htrim, ← List.reverse_append, ← hr, List.reverse_reverse]
  refine ⟨b.reverse, hs', fun c hc => hb c (List.mem_reverse.1 hc), ?_, ?_⟩
  · rw [hs'] at hs
    exact hs.of_append
  · rw [htrim, List.getLast?_reverse]
    exact hlast

namespace Scan

variable {p : Scan ε α} {f : α → Scan ε β} {s r : List Char} {a : α} {b : β} {c : Char}

theorem length_le_of_run (h : p.run s = .ok (a, r)) : r.length ≤ s.length := by
  unfold run at h
  split at h
  · next a' r' _ =>
    cases h
    exact r'.2
  · cases h

theorem run_bind_eq_ok_iff :
    (p >>= f).run s = .ok (b, r) ↔ ∃ a u, p.run s = .ok (a, u) ∧ (f a).run u = .ok (b, r) := by
  rw [run_bind]
  cases h : p.run s with
  | error e => simp
  | ok x =>
    obtain ⟨a, u⟩ := x
    simp

theorem run_pure_eq_ok_iff {a' : α} :
    (pure a : Scan ε α).run s = .ok (a', r) ↔ a' = a ∧ r = s := by
  simp [eq_comm]

theorem run_takeWhile_eq_ok_iff {q : Char → Bool} {t : List Char} :
    (takeWhile q : Scan ε _).run s = .ok (t, r) ↔
      s = t ++ r ∧ (∀ c ∈ t, q c) ∧ StopsAt q r.head? := by
  rw [run_takeWhile, Except.ok.injEq, Prod.mk.injEq]
  constructor
  · rintro ⟨rfl, rfl⟩
    exact ⟨List.takeWhile_append_dropWhile.symm, fun c => List.mem_takeWhile_imp,
      stopsAt_dropWhile q s⟩
  · rintro ⟨rfl, ht, hr⟩
    exact takeWhile_append_of_stopsAt ht hr

/-- A choice by the next character, which the first of two ways takes. -/
theorem run_eat_bind_eq_ok_iff {p q : Scan ε α} :
    (eat c >>= fun b => if b then p else q).run s = .ok (a, r) ↔
      (∃ u, s = c :: u ∧ p.run u = .ok (a, r)) ∨ s.head? ≠ some c ∧ q.run s = .ok (a, r) := by
  rw [run_bind, run_eat]
  cases s with
  | nil => simp
  | cons d u =>
    by_cases h : d = c
    · subst h
      simp
    · simp [h]

theorem run_pure_bind (a : α) (f : α → Scan ε β) (s : List Char) :
    (pure a >>= f).run s = (f a).run s := by
  rw [run_bind, run_pure]

theorem run_takeWhile_bind_eq_ok_iff {q : Char → Bool} {f : List Char → Scan ε β} :
    (takeWhile q >>= f).run s = .ok (b, r) ↔
      ∃ t u, s = t ++ u ∧ (∀ c ∈ t, q c) ∧ StopsAt q u.head? ∧ (f t).run u = .ok (b, r) := by
  rw [run_bind_eq_ok_iff]
  simp only [run_takeWhile_eq_ok_iff, and_assoc]

/-- Looking at the text ahead takes nothing. -/
theorem run_ahead_bind (f : List Char → Scan ε β) (s : List Char) :
    (ahead >>= f).run s = (f s).run s := by
  rw [run_bind, run_ahead]

theorem run_check_eq_ok_iff {q : Prop} [Decidable q] {e : ε} {f : α → Scan ε β} {rest : Scan ε β} :
    (if q then (fail e : Scan ε α) >>= f else rest).run s = .ok (b, r) ↔
      ¬ q ∧ rest.run s = .ok (b, r) := by
  by_cases hq : q
  · rw [if_pos hq, run_bind, run_fail]
    exact ⟨nofun, fun h => absurd hq h.1⟩
  · rw [if_neg hq]
    exact ⟨fun h => ⟨hq, h⟩, And.right⟩

theorem run_commaList (e : ε) (item : Scan ε α) (close : Char) (s : List Char) :
    (commaList e item close).run s =
      match item.run s with
      | .error e => .error e
      | .ok (_, []) => .error e
      | .ok (a, c :: rest) =>
        if c = ',' then
          match (commaList e item close).run rest with
          | .error e => .error e
          | .ok (as, t) => .ok (a :: as, t)
        else if c = close then .ok ([a], rest)
        else .error e := by
  simp only [run]
  rw [commaList]
  cases item s with
  | error e => rfl
  | ok x =>
    obtain ⟨a, _ | ⟨c, rest⟩, h⟩ := x
    · rfl
    · by_cases hc : c = ','
      · simp only [hc, if_true]
        cases commaList e item close rest <;> rfl
      · by_cases hclose : c = close
        · subst hclose
          simp only [hc, if_true, if_false]
        · simp only [hc, hclose, if_false]

/-- A list is read when its first item is, and behind a comma the rest of the list, or the end. -/
theorem run_commaList_eq_ok_iff {e : ε} {item : Scan ε α} {close : Char} {as : List α} :
    (commaList e item close).run s = .ok (as, r) ↔
      ∃ a c u more, item.run s = .ok (a, c :: u) ∧ as = a :: more ∧
        (c = ',' ∧ (commaList e item close).run u = .ok (more, r) ∨
          c ≠ ',' ∧ c = close ∧ more = [] ∧ r = u) := by
  rw [run_commaList]
  constructor
  · intro h
    split at h
    · cases h
    · cases h
    · next a c u hitem =>
      split at h
      · next hc =>
        split at h
        · cases h
        · next more t hmore =>
          cases h
          exact ⟨a, c, u, more, hitem, rfl, .inl ⟨hc, hmore⟩⟩
      · next hc =>
        split at h
        · next hclose =>
          cases h
          exact ⟨a, c, _, [], hitem, rfl, .inr ⟨hc, hclose, rfl, rfl⟩⟩
        · cases h
  · rintro ⟨a, c, u, more, hitem, rfl, ⟨hc, hmore⟩ | ⟨hc, hclose, rfl, rfl⟩⟩
    · simp only [hitem, hc, if_true, hmore]
    · subst hclose
      simp only [hitem, hc, if_true, if_false]

end Scan

end GraphSelect.Text
