import GraphSelect.Proofs.Selector.AttributeClause
import GraphSelect.Proofs.Selector.Call
import GraphSelect.Proofs.Text.Digits

/-!
# Reading snippets

The first character of a snippet tells which snippet it is, and the character behind it tells
whether it ends there. A row of snippets is read as long as one stands ahead, and no snippet begins
with a character that ends a segment. What the reader of blocks does is a hypothesis here.
-/
namespace GraphSelect.Selector

open Text Grammar

variable {registry : Registry} {block : List Char → Read Filter}
  {Block : List Char → List Stage → Prop} {s r t start : List Char} {c : Char} {f : Filter}

/-- A reader of blocks takes the blocks that hold certain texts, behind their opening brace. -/
def ReadsBlocks (block : List Char → Read Filter) (Block : List Char → List Stage → Prop) : Prop :=
  ∀ start s f r, (block start).run s = .ok (f, r) ↔
    ∃ t stages, s = t ++ '}' :: r ∧ Block t stages ∧ f = .has ⟨String.ofList (trim t), stages⟩

theorem isIdentChar_of_isDigit (h : c.isDigit) : isIdentChar c := by
  simp [isIdentChar, Char.isAlphanum, h]

theorem isDigit_of_mayFollowIndex (h : mayFollowIndex c) : c.isDigit = false := by
  simp only [mayFollowIndex, Bool.or_eq_true, decide_eq_true_eq] at h
  rcases h with (((h | rfl) | rfl) | rfl) | rfl
  · cases hd : c.isDigit with
    | false => rfl
    | true =>
      rw [isBlank_of_isIdentChar (isIdentChar_of_isDigit hd)] at h
      cases h
  all_goals rfl

theorem exists_indexSnippet (h : indexSnippet.run s = .ok (f, r)) :
    ∃ t, s = t ++ r ∧ Snippet registry Block r.head? ('#' :: t) f := by
  unfold indexSnippet at h
  rw [Scan.run_takeWhile_bind_eq_ok_iff] at h
  obtain ⟨digits, u, rfl, hd, -, h⟩ := h
  rw [Scan.run_bind, Scan.run_peek] at h
  dsimp only at h
  split at h
  · rw [Scan.run_takeWhile_bind_eq_ok_iff] at h
    obtain ⟨_, _, -, -, -, h⟩ := h
    cases h
  · next hcheck =>
    rw [Bool.not_eq_true, Bool.or_eq_false_iff, List.isEmpty_eq_false_iff,
      any_eq_false_iff_stopsAt] at hcheck
    rw [readDigits_eq hcheck.1 hd] at h
    split at h
    · next n hn =>
      obtain ⟨hbound, hn⟩ := Option.ite_none_right_eq_some.1 hn
      cases hn
      cases h
      exact ⟨digits, rfl, .index hcheck.1 hd hbound hcheck.2⟩
    · cases h

theorem run_indexSnippet {digits : List Char} (hne : digits ≠ []) (hd : ∀ c ∈ digits, c.isDigit)
    (hbound : digitsValue digits < wordBound) (hr : StopsAt (!mayFollowIndex ·) r.head?) :
    indexSnippet.run (digits ++ r) = .ok (.index (digitsValue digits), r) := by
  have hstop : StopsAt Char.isDigit r.head? := by
    intro c hc
    exact isDigit_of_mayFollowIndex (by simpa using hr c hc)
  have hcheck : (digits.isEmpty || r.head?.any (!mayFollowIndex ·)) = false := by
    rw [Bool.or_eq_false_iff, List.isEmpty_eq_false_iff, any_eq_false_iff_stopsAt]
    exact ⟨hne, hr⟩
  unfold indexSnippet
  refine Scan.run_takeWhile_bind_eq_ok_iff.2 ⟨digits, r, rfl, hd, hstop, ?_⟩
  rw [Scan.run_bind, Scan.run_peek]
  dsimp only
  rw [readDigits_eq hne hd, if_pos hbound]
  exact congrArg (Scan.run · r) (if_neg (Bool.eq_false_iff.1 hcheck))

theorem exists_quotedSnippet (hq : isQuote c) (h : (quotedSnippet c start).run s = .ok (f, r)) :
    ∃ t, s = t ++ r ∧ Snippet registry Block r.head? (c :: t) f := by
  unfold quotedSnippet at h
  rw [Scan.run_bind_eq_ok_iff] at h
  obtain ⟨x, u, hx, h⟩ := h
  obtain ⟨t, content, rfl, ht, rfl⟩ := (run_quoted_eq_ok_iff hq).1 hx
  rw [Scan.run_bind_eq_ok_iff] at h
  obtain ⟨y, v, hv, h⟩ := h
  obtain ⟨hy, rfl⟩ := run_lift_eq_ok_iff.1 hv
  cases h
  exact ⟨t, rfl, .quoted ⟨hq, ht⟩ hy⟩

theorem exists_wordSnippet (hc : isIdentChar c)
    (h : (wordSnippet registry c start).run s = .ok (f, r)) :
    ∃ t, s = t ++ r ∧ Snippet registry Block r.head? (c :: t) f := by
  unfold wordSnippet at h
  rw [Scan.run_takeWhile_bind_eq_ok_iff] at h
  obtain ⟨w, u, rfl, hw, hstop, h⟩ := h
  have hword : Identifier (c :: w) := ⟨List.cons_ne_nil c w, List.forall_mem_cons.2 ⟨hc, hw⟩⟩
  dsimp only at h
  rw [Scan.run_eat_bind_eq_ok_iff] at h
  rcases h with ⟨u, rfl, h⟩ | ⟨hcall, h⟩
  · obtain ⟨t, as, accepts, rfl, ht, hresolve, rfl⟩ := run_callSnippet_eq_ok_iff.1 h
    exact ⟨w ++ '(' :: (t ++ [')']), by simp, .call hword ht hresolve⟩
  · rw [Scan.run_bind_eq_ok_iff] at h
    obtain ⟨x, v, hv, h⟩ := h
    cases h
    obtain ⟨hx, rfl⟩ := run_lift_eq_ok_iff.1 hv
    exact ⟨w, rfl, .word hword hstop hcall hx⟩

/-- What is read behind the first character of a snippet is a snippet. -/
theorem exists_snippet (hblock : ReadsBlocks block Block) {p : Read Filter}
    (hp : snippet? registry block c s = some p) (h : p.run s = .ok (f, r)) :
    ∃ t, s = t ++ r ∧ Snippet registry Block r.head? (c :: t) f := by
  unfold snippet? at hp
  split at hp
  · next hq =>
    cases hp
    exact exists_quotedSnippet hq h
  · split at hp
    · next hc =>
      cases hp
      exact exists_wordSnippet hc h
    · split at hp
      · split at hp
        · cases hp
        · next hstar =>
          cases hp
          cases h
          exact ⟨[], rfl, .star hstar⟩
      · cases hp
        exact exists_indexSnippet h
      · cases hp
        obtain ⟨t, rfl, ht⟩ := exists_attributeSnippet h
        exact ⟨t, rfl, .clause ht⟩
      · cases hp
        obtain ⟨t, stages, rfl, ht, rfl⟩ := (hblock _ _ _ _).1 h
        exact ⟨t ++ ['}'], by simp, .block ht⟩
      · cases hp

theorem snippet?_of_isQuote (hq : isQuote c) :
    snippet? registry block c s = some (quotedSnippet c (c :: s)) := by
  unfold snippet?
  rw [if_pos hq]

theorem snippet?_of_isIdentChar (hc : isIdentChar c) :
    snippet? registry block c s = some (wordSnippet registry c (c :: s)) := by
  unfold snippet?
  rw [if_neg (Bool.eq_false_iff.1 (isQuote_of_isIdentChar hc)), if_pos hc]

theorem snippet?_star (hs : s.head? ≠ some '*') :
    snippet? registry block '*' s = some (pure .any) := by
  have h : snippet? registry block '*' s = if s.head? = some '*' then none else some (pure .any) :=
    rfl
  rw [h, if_neg hs]

/-- A snippet is read where it stands in front of the character that it was derived with. -/
theorem run_snippet (hblock : ReadsBlocks block Block)
    (ht : Snippet registry Block r.head? t f) :
    ∃ c u p, t = c :: u ∧ snippet? registry block c (u ++ r) = some p ∧
      p.run (u ++ r) = .ok (f, r) := by
  cases ht with
  | @quoted t content x ht hx =>
    cases ht with
    | @mk q s t hq ht =>
      refine ⟨q, s, _, rfl, snippet?_of_isQuote hq, ?_⟩
      refine Scan.run_bind_eq_ok_iff.2 ⟨_, r, run_quoted_append hq ht _ r, ?_⟩
      exact Scan.run_bind_eq_ok_iff.2 ⟨x, r, run_lift_eq_ok_iff.2 ⟨hx, rfl⟩, rfl⟩
  | @word t x ht hnext hcall hx =>
    obtain ⟨hne, hall⟩ := ht
    cases t with
    | nil => exact absurd rfl hne
    | cons c w =>
      obtain ⟨hc, hw⟩ := List.forall_mem_cons.1 hall
      refine ⟨c, w, _, rfl, snippet?_of_isIdentChar hc, ?_⟩
      refine Scan.run_takeWhile_bind_eq_ok_iff.2 ⟨w, r, rfl, hw, hnext, ?_⟩
      refine Scan.run_eat_bind_eq_ok_iff.2 (.inr ⟨hcall, ?_⟩)
      exact Scan.run_bind_eq_ok_iff.2 ⟨x, r, run_lift_eq_ok_iff.2 ⟨hx, rfl⟩, rfl⟩
  | star hnext => exact ⟨'*', [], _, rfl, snippet?_star hnext, rfl⟩
  | @index digits hne hd hbound hnext =>
    exact ⟨'#', digits, _, rfl, rfl, run_indexSnippet hne hd hbound hnext⟩
  | @clause t f ht => exact ⟨'[', t, _, rfl, rfl, run_attributeSnippet ht⟩
  | @call w t as accepts hw ht hresolve =>
    obtain ⟨hne, hall⟩ := hw
    cases w with
    | nil => exact absurd rfl hne
    | cons c w =>
      obtain ⟨hc, hw⟩ := List.forall_mem_cons.1 hall
      refine ⟨c, w ++ '(' :: (t ++ [')']), _, rfl, snippet?_of_isIdentChar hc, ?_⟩
      have e : w ++ '(' :: (t ++ [')']) ++ r = w ++ '(' :: (t ++ ')' :: r) := by simp
      refine Scan.run_takeWhile_bind_eq_ok_iff.2 ⟨w, '(' :: (t ++ ')' :: r), e, hw,
        (stopsAt_some _ _).2 rfl, ?_⟩
      refine Scan.run_eat_bind_eq_ok_iff.2 (.inl ⟨_, rfl, ?_⟩)
      exact run_callSnippet_eq_ok_iff.2 ⟨t, as, accepts, rfl, ht, hresolve, rfl⟩
  | @block t stages ht =>
    refine ⟨'\x7b', t ++ ['}'], _, rfl, rfl, (hblock _ _ _ _).2 ⟨t, stages, ?_, ht, rfl⟩⟩
    rw [List.append_assoc]
    rfl

def startsSnippet (c : Char) : Bool :=
  isQuote c || isIdentChar c || c = '*' || c = '#' || c = '[' || c = '\x7b'

theorem snippet?_eq_none (hc : startsSnippet c = false) : snippet? registry block c s = none := by
  simp only [startsSnippet, Bool.or_eq_false_iff, decide_eq_false_iff_not] at hc
  obtain ⟨⟨⟨⟨⟨hq, hi⟩, hstar⟩, hhash⟩, hbracket⟩, hbrace⟩ := hc
  unfold snippet?
  rw [if_neg (Bool.eq_false_iff.1 hq), if_neg (Bool.eq_false_iff.1 hi)]
  split
  all_goals first | rfl | contradiction

theorem snippet?_stars (hs : s.head? = some '*') : snippet? registry block '*' s = none := by
  have h : snippet? registry block '*' s = if s.head? = some '*' then none else some (pure .any) :=
    rfl
  rw [h, if_pos hs]

theorem startsWith_of_snippet {next : Option Char} (ht : Snippet registry Block next t f) :
    StartsWith startsSnippet t.head? := by
  cases ht with
  | quoted ht => exact (startsWith_of_quotedText ht).mono fun c hc => by simp [startsSnippet, hc]
  | word ht => exact (startsWith_of_identifier ht).mono fun c hc => by simp [startsSnippet, hc]
  | call hw =>
    exact ((startsWith_of_identifier hw).mono fun c hc => by simp [startsSnippet, hc]).append _
  | star | index | clause | block => exact ⟨_, rfl, rfl⟩

theorem startsWith_of_snippets {next : Option Char} {fs : List Filter}
    (ht : Snippets registry Block next t fs) : StartsWith startsSnippet t.head? := by
  cases ht with
  | last ht => exact startsWith_of_snippet ht
  | more ht => exact (startsWith_of_snippet ht).append _

theorem exists_cons_of_snippets {next : Option Char} {fs : List Filter}
    (ht : Snippets registry Block next t fs) : ∃ c u f fs', t = c :: u ∧ fs = f :: fs' := by
  have hfs : ∃ f fs', fs = f :: fs' := by
    cases ht <;> exact ⟨_, _, rfl⟩
  obtain ⟨f, fs', rfl⟩ := hfs
  obtain ⟨c, hc, -⟩ := startsWith_of_snippets ht
  cases t with
  | nil => cases hc
  | cons c u => exact ⟨c, u, f, fs', rfl, rfl⟩

theorem run_snippets_nil : (snippets registry block).run [] = .ok ([], []) := by
  rw [snippets, Scan.run_many]
  rfl

theorem run_snippets_cons (c : Char) (s : List Char) :
    (snippets registry block).run (c :: s) =
      match snippet? registry block c s with
      | none => .ok ([], c :: s)
      | some p =>
        match p.run s with
        | .error e => .error e
        | .ok (f, r) =>
          match (snippets registry block).run r with
          | .error e => .error e
          | .ok (fs, u) => .ok (f :: fs, u) := by
  rw [snippets, Scan.run_many, Scan.run_ahead_bind]
  dsimp only
  cases hp : snippet? registry block c s with
  | none => rfl
  | some p =>
    dsimp only
    rw [Scan.run_bind, Scan.run_drop, List.drop_one, List.tail_cons]
    dsimp only
    rw [Scan.run_bind]
    cases hrun : p.run s with
    | error e => rfl
    | ok x =>
      obtain ⟨f, r⟩ := x
      have hlt : r.length < (c :: s).length := Nat.lt_succ_of_le (Scan.length_le_of_run hrun)
      dsimp only
      rw [Scan.run_pure]
      dsimp only
      rw [if_pos hlt]
      cases (Scan.many _).run r <;> rfl

theorem run_snippets_cons_eq_ok_iff {fs : List Filter} :
    (snippets registry block).run (c :: s) = .ok (f :: fs, r) ↔
      ∃ p u, snippet? registry block c s = some p ∧ p.run s = .ok (f, u) ∧
        (snippets registry block).run u = .ok (fs, r) := by
  rw [run_snippets_cons]
  constructor
  · intro h
    split at h
    · cases h
    · next p hp =>
      split at h
      · cases h
      · next f' u hrun =>
        split at h
        · cases h
        · next fs' v hmore =>
          cases h
          exact ⟨p, u, hp, hrun, hmore⟩
  · rintro ⟨p, u, hp, hrun, hmore⟩
    simp only [hp, hrun, hmore]

theorem eq_of_run_snippets_eq_nil (h : (snippets registry block).run s = .ok ([], r)) : s = r := by
  cases s with
  | nil =>
    rw [run_snippets_nil] at h
    cases h
    rfl
  | cons c s =>
    rw [run_snippets_cons] at h
    split at h
    · cases h
      rfl
    · split at h
      · cases h
      · split at h <;> cases h

theorem exists_snippets (hblock : ReadsBlocks block Block) {fs : List Filter}
    (h : (snippets registry block).run s = .ok (fs, r)) :
    fs = [] ∧ s = r ∨ ∃ t, s = t ++ r ∧ Snippets registry Block r.head? t fs := by
  induction fs generalizing s with
  | nil => exact .inl ⟨rfl, eq_of_run_snippets_eq_nil h⟩
  | cons f fs ih =>
    cases s with
    | nil =>
      rw [run_snippets_nil] at h
      cases h
    | cons c s =>
      obtain ⟨p, u, hp, hrun, hmore⟩ := run_snippets_cons_eq_ok_iff.1 h
      obtain ⟨t, rfl, ht⟩ := exists_snippet hblock hp hrun
      right
      rcases ih hmore with ⟨rfl, rfl⟩ | ⟨v, rfl, hv⟩
      · exact ⟨c :: t, rfl, .last ht⟩
      · refine ⟨c :: t ++ v, by simp, .more ?_ hv⟩
        obtain ⟨d, hd, -⟩ := startsWith_of_snippets hv
        rw [List.head?_append, hd] at ht
        rw [hd]
        exact ht

/-- In front of a character that begins no snippet, a row of snippets is taken as a whole. -/
theorem run_snippets (hblock : ReadsBlocks block Block) {fs : List Filter}
    (hr : StopsAt startsSnippet r.head?) (ht : Snippets registry Block r.head? t fs) :
    (snippets registry block).run (t ++ r) = .ok (fs, r) := by
  induction ht with
  | last ht =>
    obtain ⟨c, u, p, rfl, hp, hrun⟩ := run_snippet hblock ht
    have hstop : (snippets registry block).run r = .ok ([], r) := by
      cases r with
      | nil => exact run_snippets_nil
      | cons d r => rw [run_snippets_cons, snippet?_eq_none ((stopsAt_some _ _).1 hr)]
    exact run_snippets_cons_eq_ok_iff.2 ⟨p, r, hp, hrun, hstop⟩
  | @more t v f fs ht hv ih =>
    obtain ⟨d, hd, -⟩ := startsWith_of_snippets hv
    have hhead : (v ++ r).head? = v.head? := by rw [List.head?_append, hd]; rfl
    rw [← hhead] at ht
    obtain ⟨c, u, p, rfl, hp, hrun⟩ := run_snippet hblock ht
    rw [List.append_assoc, List.cons_append]
    exact run_snippets_cons_eq_ok_iff.2 ⟨p, v ++ r, hp, hrun, ih⟩

end GraphSelect.Selector
