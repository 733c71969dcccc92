import GraphSelect.Proofs.Selector.Snippet

/-!
# Reading segments and the gaps between them

A segment ends where a blank, a slash, the end of the text or the brace of the block around it
stands ahead. A dot and two stars are segments of their own only there; a name that begins with a
dot goes on with a character that ends no segment. Behind a segment stand blanks and the end of the
selector, or a gap and the next segment.
-/
namespace GraphSelect.Selector

open Text Grammar

variable {registry : Registry} {block : List Char → Read Filter}
  {Block : List Char → List Stage → Prop} {inBlock : Bool} {s r t : List Char} {c : Char}
  {relation : Relation} {stage : Stage}

def goesOn (c : Char) : Bool := startsSnippet c || c = '('

theorem isBlank_of_goesOn (h : goesOn c) : isBlank c = false := by
  simp only [goesOn, startsSnippet, Bool.or_eq_true, decide_eq_true_eq] at h
  rcases h with (((((h | h) | rfl) | rfl) | rfl) | rfl) | rfl
  · exact isBlank_of_isQuote h
  · exact isBlank_of_isIdentChar h
  all_goals rfl

theorem stopsAt_of_isBoundary (h : isBoundary inBlock r) : StopsAt goesOn r.head? := by
  cases r with
  | nil => exact stopsAt_none _
  | cons c r =>
    rw [List.head?_cons, stopsAt_some]
    simp only [isBoundary, Bool.or_eq_true, Bool.and_eq_true, decide_eq_true_eq] at h
    rcases h with (h | rfl) | ⟨-, rfl⟩
    · cases hc : goesOn c with
      | false => rfl
      | true => rw [isBlank_of_goesOn hc] at h; cases h
    · rfl
    · rfl

theorem goesOn_of_startsSnippet (h : startsSnippet c) : goesOn c := by
  simp [goesOn, h]

theorem goesOn_of_snippet {next : Option Char} {d : Char} {u : List Char} {f : Filter}
    (hc : isIdentChar c) (ht : Snippet registry Block next t f) (e : t = c :: d :: u) :
    goesOn d := by
  cases ht with
  | quoted ht =>
    obtain ⟨q, hq, hquote⟩ := startsWith_of_quotedText ht
    rw [e, List.head?_cons, Option.some.injEq] at hq
    rw [← hq] at hquote
    rw [isIdentChar_of_isQuote hquote] at hc
    cases hc
  | word ht =>
    have hd : isIdentChar d := ht.2 d (by rw [e]; simp)
    simp [goesOn, startsSnippet, hd]
  | star => cases e
  | index | clause | block =>
    obtain ⟨rfl, -⟩ := List.cons.inj e
    cases hc
  | @call w _ _ _ hw =>
    obtain ⟨hne, hall⟩ := hw
    cases w with
    | nil => exact absurd rfl hne
    | cons x w =>
      cases w with
      | nil =>
        cases e
        rfl
      | cons y w =>
        obtain ⟨rfl, rfl, -⟩ := by simpa using e
        have hd : isIdentChar y := hall y (by simp)
        simp [goesOn, startsSnippet, hd]

theorem goesOn_of_snippets {next : Option Char} {d : Char} {u : List Char} {fs : List Filter}
    (hc : isIdentChar c) (ht : Snippets registry Block next t fs) (e : t = c :: d :: u) :
    goesOn d := by
  cases ht with
  | last ht => exact goesOn_of_snippet hc ht e
  | @more t v f fs ht hv =>
    match t with
    | [] =>
      obtain ⟨x, hx, -⟩ := startsWith_of_snippet ht
      cases hx
    | [x] =>
      obtain ⟨y, hy, hstart⟩ := startsWith_of_snippets hv
      obtain ⟨rfl, rfl⟩ := by simpa using e
      cases hy
      exact goesOn_of_startsSnippet hstart
    | x :: y :: w =>
      obtain ⟨rfl, rfl, -⟩ := by simpa using e
      exact goesOn_of_snippet hc ht rfl

/-- What a segment is besides a dot and two stars: a row of snippets. -/
theorem run_filters_eq_ok_iff :
    (match snippet? registry block c s with
      | none => (Scan.fail (.fault (c :: s) (.unexpected c)) : Read Stage)
      | some first => do
        let f ← first
        return ⟨relation, f :: (← snippets registry block)⟩).run s = .ok (stage, r) ↔
      ∃ f fs, stage = ⟨relation, f :: fs⟩ ∧
        (snippets registry block).run (c :: s) = .ok (f :: fs, r) := by
  simp only [run_snippets_cons_eq_ok_iff]
  cases hp : snippet? registry block c s with
  | none => simp
  | some p =>
    simp only [Scan.run_bind_eq_ok_iff, Scan.run_pure_eq_ok_iff, Option.some.injEq]
    constructor
    · rintro ⟨f, u, hf, fs, v, hfs, rfl, rfl⟩
      exact ⟨f, fs, rfl, p, u, rfl, hf, hfs⟩
    · rintro ⟨f, fs, rfl, p, u, rfl, hf, hfs⟩
      exact ⟨f, u, hf, fs, r, hfs, rfl, rfl⟩

theorem exists_segment (hblock : ReadsBlocks block Block) (hr : isBoundary inBlock r)
    (h : (segment registry block inBlock relation c).run s = .ok (stage, r)) :
    ∃ t, s = t ++ r ∧ Segment registry Block relation r.head? (c :: t) stage := by
  unfold segment at h
  rw [Scan.run_ahead_bind] at h
  split at h
  · next hstars =>
    obtain ⟨⟨rfl, hhead⟩, -⟩ : (c = '*' ∧ s.head? = some '*') ∧ isBoundary inBlock s.tail := by
      simpa using hstars
    cases s with
    | nil => cases hhead
    | cons d s =>
      cases hhead
      cases h
      exact ⟨['*'], rfl, .anywhere⟩
  · split at h
    · next hdot =>
      obtain ⟨rfl, -⟩ : c = '.' ∧ isBoundary inBlock s := by simpa using hdot
      cases h
      exact ⟨[], rfl, .here⟩
    · next hdot =>
      obtain ⟨f, fs, rfl, hrun⟩ := run_filters_eq_ok_iff.1 h
      rcases exists_snippets hblock hrun with ⟨he, -⟩ | ⟨t, hs, ht⟩
      · cases he
      · obtain ⟨d, u, f', fs', rfl, hfs⟩ := exists_cons_of_snippets ht
        obtain ⟨rfl, rfl⟩ := List.cons.inj hs
        refine ⟨u, rfl, .filters (fun e => hdot ?_) ht⟩
        obtain ⟨rfl, rfl⟩ := List.cons.inj e
        simp [hr]

theorem run_segment (hblock : ReadsBlocks block Block) (hr : isBoundary inBlock r)
    (ht : Segment registry Block relation r.head? t stage) :
    ∃ c u, t = c :: u ∧
      (segment registry block inBlock relation c).run (u ++ r) = .ok (stage, r) := by
  cases ht with
  | here =>
    refine ⟨'.', [], rfl, ?_⟩
    unfold segment
    rw [Scan.run_ahead_bind]
    simp [hr]
  | anywhere =>
    refine ⟨'*', ['*'], rfl, ?_⟩
    unfold segment
    rw [Scan.run_ahead_bind]
    simp [hr, Scan.run_bind]
  | @filters t fs hdot ht =>
    have hstop := stopsAt_of_isBoundary hr
    have hrun := run_snippets hblock (hstop.mono fun _ => goesOn_of_startsSnippet) ht
    obtain ⟨c, u, f, fs, rfl, rfl⟩ := exists_cons_of_snippets ht
    refine ⟨c, u, rfl, ?_⟩
    unfold segment
    rw [Scan.run_ahead_bind, if_neg, if_neg]
    · exact run_filters_eq_ok_iff.2 ⟨f, fs, rfl, hrun⟩
    · intro h
      obtain ⟨rfl, hend⟩ : c = '.' ∧ isBoundary inBlock (u ++ r) := by simpa using h
      cases u with
      | nil => exact hdot rfl
      | cons d u =>
        have hgoes := goesOn_of_snippets rfl ht rfl
        have hd := (stopsAt_some _ _).1 (stopsAt_of_isBoundary hend)
        rw [hgoes] at hd
        cases hd
    · intro h
      obtain ⟨⟨rfl, hhead⟩, -⟩ : (c = '*' ∧ (u ++ r).head? = some '*') ∧
          isBoundary inBlock (u ++ r).tail := by simpa using h
      rw [List.cons_append] at hrun
      obtain ⟨p, v, hp, -, -⟩ := run_snippets_cons_eq_ok_iff.1 hrun
      rw [snippet?_stars hhead] at hp
      cases hp

theorem startsWith_of_segment {next : Option Char}
    (ht : Segment registry Block relation next t stage) : StartsWith startsSnippet t.head? := by
  cases ht with
  | here | anywhere => exact ⟨_, rfl, rfl⟩
  | filters _ ht => exact startsWith_of_snippets ht

theorem run_separator_slashes (otherwise : Option Relation) (u : List Char) :
    (separator otherwise).run ('/' :: '/' :: u) = .ok (some .descendant, u) := by
  unfold separator
  rw [Scan.run_bind, Scan.run_eatAll]
  simp

theorem run_separator_slash (otherwise : Option Relation) {u : List Char}
    (hu : u.head? ≠ some '/') : (separator otherwise).run ('/' :: u) = .ok (some .immediate, u) := by
  have hslashes : ¬ (['/', '/'].isPrefixOf ('/' :: u)) := by
    cases u with
    | nil => simp
    | cons c u =>
      have hc : c ≠ '/' := by simpa using hu
      simp [hc.symm]
  unfold separator
  rw [Scan.run_bind, Scan.run_eatAll, if_neg hslashes]
  simp [Scan.run_bind]

theorem run_separator_of_ne (otherwise : Option Relation) (hs : s.head? ≠ some '/') :
    (separator otherwise).run s = .ok (otherwise, s) := by
  have hslashes : ¬ (['/', '/'].isPrefixOf s) := by
    cases s with
    | nil => simp
    | cons c s =>
      have hc : c ≠ '/' := by simpa using hs
      simp [hc.symm]
  unfold separator
  rw [Scan.run_bind, Scan.run_eatAll, if_neg hslashes]
  simp [Scan.run_bind, hs]

theorem run_separator_cases {otherwise o : Option Relation}
    (h : (separator otherwise).run s = .ok (o, r)) :
    s = '/' :: '/' :: r ∧ o = some .descendant ∨ s = '/' :: r ∧ o = some .immediate ∨
      s = r ∧ s.head? ≠ some '/' ∧ o = otherwise := by
  by_cases hs : s.head? = some '/'
  · obtain ⟨u, rfl⟩ := List.head?_eq_some_iff.1 hs
    by_cases hu : u.head? = some '/'
    · obtain ⟨v, rfl⟩ := List.head?_eq_some_iff.1 hu
      rw [run_separator_slashes] at h
      cases h
      exact .inl ⟨rfl, rfl⟩
    · rw [run_separator_slash _ hu] at h
      cases h
      exact .inr (.inl ⟨rfl, rfl⟩)
  · rw [run_separator_of_ne _ hs] at h
    cases h
    exact .inr (.inr ⟨rfl, hs, rfl⟩)

theorem separator_append_blanks {gap b : List Char} (h : Separator gap relation) (hb : Blanks b) :
    Separator (gap ++ b) relation := by
  cases h with
  | @slash a c ha hc =>
    rw [List.append_assoc]
    exact .slash ha (hc.append hb)
  | @slashes a c ha hc =>
    rw [List.append_assoc]
    exact .slashes ha (hc.append hb)
  | blanks hne ha => exact .blanks (by simp [hne]) (ha.append hb)

theorem isBoundary_of_isBlank (h : isBlank c) : isBoundary inBlock (c :: r) := by
  simp [isBoundary, h]

theorem isBoundary_of_closes {z : List Char} (hz : Blanks z) (hr : closes inBlock r) :
    isBoundary inBlock (z ++ r) := by
  cases z with
  | cons c z => exact isBoundary_of_isBlank (hz c List.mem_cons_self)
  | nil =>
    cases r with
    | nil => rfl
    | cons c r =>
      simp only [closes, Bool.and_eq_true, decide_eq_true_eq] at hr
      simp [isBoundary, hr]

theorem isBoundary_of_separator {gap : List Char} (h : Separator gap relation) :
    isBoundary inBlock (gap ++ r) := by
  have hslash : ∀ {a b : List Char}, Blanks a → isBoundary inBlock (a ++ '/' :: b) := by
    intro a b ha
    cases a with
    | nil => simp [isBoundary]
    | cons c a => exact isBoundary_of_isBlank (ha c List.mem_cons_self)
  cases h with
  | slash ha | slashes ha =>
    rw [List.append_assoc]
    exact hslash ha
  | blanks hne ha =>
    cases gap with
    | nil => exact absurd rfl hne
    | cons c a => exact isBoundary_of_isBlank (ha c List.mem_cons_self)

theorem exists_afterSegment {o : Option Relation}
    (h : (afterSegment inBlock).run s = .ok (o, r)) :
    (o = none ∧ ∃ z, s = z ++ r ∧ Blanks z ∧ closes inBlock r) ∨
      ∃ next gap, o = some next ∧ s = gap ++ r ∧ Separator gap next := by
  unfold afterSegment at h
  rw [Scan.run_ahead_bind, run_blanks_bind_eq_ok_iff] at h
  obtain ⟨a, u, rfl, ha, -, h⟩ := h
  rw [Scan.run_ahead_bind] at h
  split at h
  · next hcloses =>
    cases h
    exact .inl ⟨rfl, a, rfl, ha, hcloses⟩
  · next hcloses =>
    rw [Scan.run_bind_eq_ok_iff] at h
    obtain ⟨o', v, ho, h⟩ := h
    right
    rcases run_separator_cases ho with ⟨rfl, rfl⟩ | ⟨rfl, rfl⟩ | ⟨rfl, -, rfl⟩
    · cases h
      exact ⟨.descendant, a ++ ['/', '/'], rfl, by simp, .slashes ha blanks_nil⟩
    · cases h
      exact ⟨.immediate, a ++ ['/'], rfl, by simp, .slash ha blanks_nil⟩
    · by_cases hlt : u.length < (a ++ u).length
      · rw [if_pos hlt] at h
        cases h
        refine ⟨.descendant, a, rfl, rfl, .blanks (fun he => ?_) ha⟩
        rw [he] at hlt
        exact Nat.lt_irrefl _ hlt
      · rw [if_neg hlt] at h
        cases u with
        | nil => exact absurd rfl hcloses
        | cons c u => cases h

theorem run_afterSegment_of_closes {z : List Char} (hz : Blanks z) (hr : closes inBlock r) :
    (afterSegment inBlock).run (z ++ r) = .ok (none, r) := by
  have hstop : StopsAt isBlank r.head? := by
    cases r with
    | nil => exact stopsAt_none _
    | cons c r =>
      simp only [closes, Bool.and_eq_true, decide_eq_true_eq] at hr
      rw [hr.2]
      exact (stopsAt_some _ _).2 rfl
  unfold afterSegment
  rw [Scan.run_ahead_bind]
  refine run_blanks_bind_eq_ok_iff.2 ⟨z, r, rfl, hz, hstop, ?_⟩
  rw [Scan.run_ahead_bind, if_pos hr]
  rfl

theorem closes_of_startsWith {p : Char → Bool} (hp : p '}' = false) (h : StartsWith p s.head?) :
    closes inBlock s = false := by
  obtain ⟨c, hc, hstart⟩ := h
  obtain ⟨u, rfl⟩ := List.head?_eq_some_iff.1 hc
  have hne : c ≠ '}' := by
    rintro rfl
    rw [hp] at hstart
    cases hstart
  simp [closes, hne]

/-- No slash stands between blanks and a segment. -/
theorem head?_blanks_append_ne {b : List Char} (hb : Blanks b)
    (hs : StartsWith startsSnippet s.head?) : (b ++ s).head? ≠ some '/' := by
  cases b with
  | nil => exact hs.ne rfl
  | cons c b =>
    intro hc
    have := hb c List.mem_cons_self
    cases hc
    cases this

theorem run_afterSegment {a u v : List Char} (ha : Blanks a) (hstop : StopsAt isBlank u.head?)
    (hcloses : closes inBlock u = false)
    (h : (separator (if u.length < (a ++ u).length then some .descendant else none)).run u =
      .ok (some relation, v)) : (afterSegment inBlock).run (a ++ u) = .ok (some relation, v) := by
  unfold afterSegment
  rw [Scan.run_ahead_bind]
  refine run_blanks_bind_eq_ok_iff.2 ⟨a, u, rfl, ha, hstop, ?_⟩
  rw [Scan.run_ahead_bind, if_neg (Bool.eq_false_iff.1 hcloses)]
  exact Scan.run_bind_eq_ok_iff.2 ⟨some relation, v, h, rfl⟩

/-- Behind a segment a gap is taken, but for the blanks in front of the next segment. -/
theorem run_afterSegment_of_separator {gap : List Char} (h : Separator gap relation)
    (hs : StartsWith startsSnippet s.head?) :
    ∃ b, Blanks b ∧ (afterSegment inBlock).run (gap ++ s) = .ok (some relation, b ++ s) := by
  have hblank : StopsAt isBlank s.head? :=
    hs.stopsAt fun _ hc => isBlank_of_goesOn (goesOn_of_startsSnippet hc)
  cases h with
  | @slash a b ha hb =>
    refine ⟨b, hb, ?_⟩
    rw [List.append_assoc, List.cons_append]
    exact run_afterSegment ha ((stopsAt_some _ _).2 rfl) (by simp [closes])
      (run_separator_slash _ (head?_blanks_append_ne hb hs))
  | @slashes a b ha hb =>
    refine ⟨b, hb, ?_⟩
    rw [List.append_assoc, List.cons_append, List.cons_append]
    exact run_afterSegment ha ((stopsAt_some _ _).2 rfl) (by simp [closes])
      (run_separator_slashes _ _)
  | blanks hne ha =>
    refine ⟨[], blanks_nil, run_afterSegment ha hblank (closes_of_startsWith rfl hs) ?_⟩
    have hlt : s.length < (gap ++ s).length := by
      have := List.length_pos_iff.2 hne
      rw [List.length_append]
      omega
    rw [if_pos hlt]
    exact run_separator_of_ne _ (hs.ne rfl)

end GraphSelect.Selector
