import GraphSelect.Proofs.Selector.Grammar

/-!
# Reading the small pieces

Blanks, words and quoted texts are read exactly as the grammar has them. Each statement says in
front of which texts a reader succeeds, what it takes away and with which value. The kinds of
characters are disjoint, so the first character of a piece tells it from what came before.
-/
namespace GraphSelect.Selector

open Text Grammar

variable {α : Type} {s r t : List Char} {quote c : Char}

theorem isBlank_of_isIdentChar (h : isIdentChar c) : isBlank c = false := by
  simp only [isIdentChar, Bool.or_eq_true, decide_eq_true_eq] at h
  rcases h with (((h | rfl) | rfl) | rfl) | rfl
  · have hn : (65 ≤ c.toNat ∧ c.toNat ≤ 90 ∨ 97 ≤ c.toNat ∧ c.toNat ≤ 122) ∨
        48 ≤ c.toNat ∧ c.toNat ≤ 57 := by
      delta Char.isAlphanum Char.isAlpha Char.isUpper Char.isLower at h
      simpa [Char.isDigit, UInt32.le_iff_toNat_le] using h
    simp [isBlank]
    omega
  all_goals decide

theorem isQuote_iff : isQuote c ↔ c = '\'' ∨ c = '"' := by
  simp [isQuote]

theorem isBlank_of_isQuote (h : isQuote c) : isBlank c = false := by
  rcases isQuote_iff.1 h with rfl | rfl <;> decide

theorem isIdentChar_of_isQuote (h : isQuote c) : isIdentChar c = false := by
  rcases isQuote_iff.1 h with rfl | rfl <;> decide

theorem isIdentChar_of_isBlank (h : isBlank c) : isIdentChar c = false := by
  cases hc : isIdentChar c with
  | false => rfl
  | true => rw [isBlank_of_isIdentChar hc] at h; cases h

theorem isQuote_of_isIdentChar (h : isIdentChar c) : isQuote c = false := by
  cases hc : isQuote c with
  | false => rfl
  | true => rw [isIdentChar_of_isQuote hc] at h; cases h

theorem isQuote_of_isBlank (h : isBlank c) : isQuote c = false := by
  cases hc : isQuote c with
  | false => rfl
  | true => rw [isBlank_of_isQuote hc] at h; cases h

theorem exists_quoted_of_unquote (h : unquote quote s = some (t, r)) :
    ∃ u, s = u ++ r ∧ Quoted quote u t := by
  fun_induction unquote quote s generalizing t with
  | case1 => cases h
  | case2 =>
    cases h
    exact ⟨[quote], rfl, .close⟩
  | case3 => cases h
  | case4 d s =>
    cases h
    exact ⟨[quote], rfl, .close⟩
  | case5 c d s hne hescape ih =>
    obtain ⟨⟨t', r'⟩, hrest, he⟩ := Option.map_eq_some_iff.1 h
    cases he
    obtain ⟨u, rfl, hu⟩ := ih hrest
    obtain ⟨rfl, rfl⟩ : c = '\\' ∧ d = quote := by simpa using hescape
    exact ⟨'\\' :: d :: u, rfl, .escaped hu⟩
  | case6 c d s hne hescape ih =>
    obtain ⟨⟨t', r'⟩, hrest, he⟩ := Option.map_eq_some_iff.1 h
    cases he
    obtain ⟨u, hs, hu⟩ := ih hrest
    refine ⟨c :: u, congrArg (c :: ·) hs, .plain hne (fun hc hhead => hescape ?_) hu⟩
    cases u with
    | nil => cases hhead
    | cons e u =>
      rw [List.cons_append, List.cons.injEq] at hs
      rw [List.head?_cons, Option.some.injEq] at hhead
      simp [hc, hs.1, hhead]

theorem unquote_of_quoted (hquote : quote ≠ '\\') (h : Quoted quote s t) (r : List Char) :
    unquote quote (s ++ r) = some (t, r) := by
  induction h with
  | close => cases r <;> simp [unquote]
  | escaped _ ih => simp [unquote, hquote.symm, ih]
  | @plain c s t hc hs hrest ih =>
    cases s with
    | nil => cases hrest
    | cons d s =>
      have hescape : ¬ (c = '\\' ∧ d = quote) := by
        rintro ⟨hc', rfl⟩
        exact hs hc' rfl
      rw [List.cons_append] at ih
      simp [unquote, hc, hescape, ih]

theorem run_quoted (quote : Char) (start s : List Char) :
    (quoted quote start).run s =
      match unquote quote s with
      | some (t, r) => .ok (String.ofList t, r)
      | none => .error (.fault start .openQuote) := by
  rw [Scan.run, quoted]
  split
  · next h =>
    split at h
    · next hu =>
      cases h
      simp only [hu]
    · cases h
  · next h =>
    split at h
    · cases h
    · next hu =>
      cases h
      simp only [hu]

theorem run_quoted_eq_ok_iff (hq : isQuote quote) {start : List Char} {x : String} :
    (quoted quote start).run s = .ok (x, r) ↔
      ∃ u t, s = u ++ r ∧ Quoted quote u t ∧ x = String.ofList t := by
  have hquote : quote ≠ '\\' := by
    rintro rfl
    cases hq
  rw [run_quoted]
  constructor
  · intro h
    cases hu : unquote quote s with
    | none => rw [hu] at h; cases h
    | some p =>
      obtain ⟨t, r'⟩ := p
      rw [hu] at h
      cases h
      obtain ⟨u, hs, hu⟩ := exists_quoted_of_unquote hu
      exact ⟨u, t, hs, hu, rfl⟩
  · rintro ⟨u, t, rfl, hu, rfl⟩
    rw [unquote_of_quoted hquote hu r]

theorem run_quoted_append (hq : isQuote quote) (h : Quoted quote s t) (start r : List Char) :
    (quoted quote start).run (s ++ r) = .ok (String.ofList t, r) :=
  (run_quoted_eq_ok_iff hq).2 ⟨s, t, rfl, h, rfl⟩

theorem run_quoted?_eq_ok_iff {o : Option String} :
    quoted?.run s = .ok (o, r) ↔
      (∃ u t, s = u ++ r ∧ QuotedText u t ∧ o = some (String.ofList t)) ∨
        o = none ∧ r = s ∧ StopsAt isQuote s.head? := by
  unfold quoted?
  rw [Scan.run_bind, Scan.run_ahead]
  cases s with
  | nil =>
    constructor
    · intro h
      cases h
      exact .inr ⟨rfl, rfl, stopsAt_none _⟩
    · rintro (⟨u, t, hs, ⟨hq, -⟩, -⟩ | ⟨rfl, rfl, -⟩)
      · cases hs
      · rfl
  | cons c s =>
    by_cases hc : isQuote c
    · simp only [if_pos hc]
      rw [Scan.run_bind, Scan.run_drop]
      simp only [Scan.run_bind_eq_ok_iff, run_quoted_eq_ok_iff hc, Scan.run_pure_eq_ok_iff]
      constructor
      · rintro ⟨x, r, ⟨u, t, hs, hu, rfl⟩, rfl, rfl⟩
        exact .inl ⟨c :: u, t, congrArg (c :: ·) hs, ⟨hc, hu⟩, rfl⟩
      · rintro (⟨_, t, hs, ⟨hq, hu⟩, rfl⟩ | ⟨-, -, hstop⟩)
        · obtain ⟨rfl, rfl⟩ := List.cons.inj hs
          exact ⟨_, r, ⟨_, t, rfl, hu, rfl⟩, rfl, rfl⟩
        · rw [List.head?_cons, stopsAt_some, hc] at hstop
          cases hstop
    · simp only [if_neg hc]
      rw [Scan.run_pure_eq_ok_iff]
      constructor
      · rintro ⟨rfl, rfl⟩
        exact .inr ⟨rfl, rfl, by simpa using hc⟩
      · rintro (⟨_, t, hs, ⟨hq, hu⟩, rfl⟩ | ⟨rfl, rfl, -⟩)
        · obtain ⟨rfl, rfl⟩ := List.cons.inj hs
          exact absurd hq hc
        · exact ⟨rfl, rfl⟩

theorem run_quoted?_append {content : List Char} (ht : QuotedText t content) (r : List Char) :
    quoted?.run (t ++ r) = .ok (some (String.ofList content), r) :=
  run_quoted?_eq_ok_iff.2 (.inl ⟨t, content, rfl, ht, rfl⟩)

theorem run_quoted?_of_stopsAt (hs : StopsAt isQuote s.head?) : quoted?.run s = .ok (none, s) :=
  run_quoted?_eq_ok_iff.2 (.inr ⟨rfl, rfl, hs⟩)

theorem run_blanks_eq_ok_iff {x : Unit} :
    blanks.run s = .ok (x, r) ↔ ∃ a, s = a ++ r ∧ Blanks a ∧ StopsAt isBlank r.head? := by
  unfold blanks
  rw [Scan.run_takeWhile_bind_eq_ok_iff]
  constructor
  · rintro ⟨a, u, rfl, ha, hu, h⟩
    cases h
    exact ⟨a, rfl, ha, hu⟩
  · rintro ⟨a, rfl, ha, hr⟩
    exact ⟨a, r, rfl, ha, hr, rfl⟩

theorem run_blanks_bind_eq_ok_iff {f : Unit → Read α} {x : α} :
    (blanks >>= f).run s = .ok (x, r) ↔
      ∃ a u, s = a ++ u ∧ Blanks a ∧ StopsAt isBlank u.head? ∧ (f ()).run u = .ok (x, r) := by
  rw [Scan.run_bind_eq_ok_iff]
  simp only [run_blanks_eq_ok_iff]
  constructor
  · rintro ⟨_, u, ⟨a, rfl, ha, hu⟩, h⟩
    exact ⟨a, u, rfl, ha, hu, h⟩
  · rintro ⟨a, u, rfl, ha, hu, h⟩
    exact ⟨(), u, ⟨a, rfl, ha, hu⟩, h⟩

theorem run_lift_eq_ok_iff {e : Except Error α} {a : α} :
    (lift e).run s = .ok (a, r) ↔ e = .ok a ∧ r = s := by
  cases e with
  | error e => simp [lift]
  | ok b => simp [lift, eq_comm]

theorem startsWith_of_quotedText {content : List Char} (ht : QuotedText t content) :
    StartsWith isQuote t.head? := by
  cases ht with
  | mk hq _ => exact ⟨_, rfl, hq⟩

theorem startsWith_of_identifier (ht : Identifier t) : StartsWith isIdentChar t.head? := by
  obtain ⟨hne, hall⟩ := ht
  cases t with
  | nil => exact absurd rfl hne
  | cons c t => exact ⟨c, rfl, hall c List.mem_cons_self⟩

end GraphSelect.Selector
