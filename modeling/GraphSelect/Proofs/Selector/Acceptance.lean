import GraphSelect.Proofs.Selector.Segment

/-!
# What the compiler accepts

The compiler accepts the texts that the grammar derives, up to a length, and gives the stages of
the derivation. A row of segments is read by recursion on what is left of the text, blocks by
recursion on the levels that are still allowed; for each level, the reader of blocks takes exactly
the selectors of the level below.
-/
namespace GraphSelect

namespace Selector

open Text Grammar

variable {registry : Registry} {block : List Char → Read Filter}
  {Block : List Char → List Stage → Prop} {inBlock : Bool} {s r t : List Char}
  {relation : Relation} {stages : List Stage}

theorem run_segments (relation : Relation) (s : List Char) :
    (segments registry block inBlock relation).run s =
      match skipBlanks s with
      | [] => .error (.fault [] .missingSegment)
      | c :: rest =>
        if closes inBlock (c :: rest) then .error (.fault (c :: rest) .missingSegment)
        else
          match (segment registry block inBlock relation c).run rest with
          | .error e => .error e
          | .ok (stage, r) =>
            match (afterSegment inBlock).run r with
            | .error e => .error e
            | .ok (none, t) => .ok ([stage], t)
            | .ok (some next, t) =>
              match (segments registry block inBlock next).run t with
              | .error e => .error e
              | .ok (stages, u) => .ok (stage :: stages, u) := by
  rw [Scan.run]
  generalize ho : segments registry block inBlock relation s = o
  rw [segments] at ho
  split at ho
  · next e =>
    subst ho
    simp only [e]
  · next c rest e =>
    simp only [e, Scan.run]
    by_cases hc : closes inBlock (c :: rest)
    · subst ho
      simp only [hc, if_true]
    · subst ho
      simp only [hc, if_false, Bool.false_eq_true]
      cases segment registry block inBlock relation c rest with
      | error e => rfl
      | ok x =>
        dsimp only
        cases afterSegment inBlock x.2.1 with
        | error e => rfl
        | ok y =>
          obtain ⟨_ | next, t⟩ := y
          · rfl
          · dsimp only
            cases segments registry block inBlock next t.1 <;> rfl

/-- A row is a segment and, behind a gap, the rest of the row. -/
theorem run_segments_eq_ok_iff :
    (segments registry block inBlock relation).run s = .ok (stages, r) ↔
      ∃ c rest stage u o v more, skipBlanks s = c :: rest ∧ closes inBlock (c :: rest) = false ∧
        (segment registry block inBlock relation c).run rest = .ok (stage, u) ∧
        (afterSegment inBlock).run u = .ok (o, v) ∧ stages = stage :: more ∧
        (o = none ∧ more = [] ∧ r = v ∨ ∃ next, o = some next ∧
          (segments registry block inBlock next).run v = .ok (more, r)) := by
  rw [run_segments]
  constructor
  · intro h
    split at h
    · cases h
    · next c rest hs =>
      split at h
      · cases h
      · next hcloses =>
        have hcloses := Bool.eq_false_iff.2 hcloses
        split at h
        · cases h
        · next stage u hseg =>
          split at h
          · cases h
          · next v hafter =>
            cases h
            exact ⟨c, rest, stage, u, none, _, [], hs, hcloses, hseg, hafter, rfl,
              .inl ⟨rfl, rfl, rfl⟩⟩
          · next next v hafter =>
            split at h
            · cases h
            · next more w hmore =>
              cases h
              exact ⟨c, rest, stage, u, some next, v, more, hs, hcloses, hseg, hafter, rfl,
                .inr ⟨next, rfl, hmore⟩⟩
  · rintro ⟨c, rest, stage, u, o, v, more, hs, hcloses, hseg, hafter, rfl,
      ⟨rfl, rfl, rfl⟩ | ⟨next, rfl, hmore⟩⟩
    · simp only [hs, hcloses, hseg, hafter, if_false, Bool.false_eq_true]
    · simp only [hs, hcloses, hseg, hafter, hmore, if_false, Bool.false_eq_true]

theorem head?_separator_append {gap : List Char} (h : Separator gap relation) (u : List Char) :
    (gap ++ u).head? = gap.head? := by
  refine List.head?_append_of_ne_nil gap ?_
  cases h with
  | slash | slashes => simp
  | blanks hne => exact hne

theorem startsWith_of_segments {next : Option Char}
    (ht : Segments registry Block next relation t stages) : StartsWith startsSnippet t.head? := by
  cases ht with
  | last ht => exact startsWith_of_segment ht
  | more ht =>
    rw [List.append_assoc]
    exact (startsWith_of_segment ht).append _

/-- What is taken are segments between blanks, up to the end of the selector. -/
theorem exists_segments (hblock : ReadsBlocks block Block)
    (h : (segments registry block inBlock relation).run s = .ok (stages, r)) :
    ∃ b t z, s = b ++ (t ++ (z ++ r)) ∧ Blanks b ∧
      Segments registry Block (z ++ r).head? relation t stages ∧ Blanks z ∧ closes inBlock r := by
  induction stages generalizing s relation with
  | nil =>
    obtain ⟨_, _, _, _, _, _, _, -, -, -, -, he, -⟩ := run_segments_eq_ok_iff.1 h
    cases he
  | cons stage more ih =>
    obtain ⟨c, rest, _, u, o, v, _, hskip, -, hseg, hafter, he, hrest⟩ :=
      run_segments_eq_ok_iff.1 h
    cases he
    obtain ⟨b, hs, hb, -⟩ := exists_skipBlanks s
    rw [hskip] at hs
    rcases exists_afterSegment hafter with ⟨rfl, z, rfl, hz, hcloses⟩ | ⟨next, gap, rfl, rfl, hgap⟩
    · obtain ⟨-, rfl, rfl⟩ | ⟨_, he, -⟩ := hrest
      · obtain ⟨t, rfl, ht⟩ := exists_segment hblock (isBoundary_of_closes hz hcloses) hseg
        exact ⟨b, c :: t, z, hs, hb, .last ht, hz, hcloses⟩
      · cases he
    · obtain ⟨he, -⟩ | ⟨_, he, hmore⟩ := hrest
      · cases he
      · cases he
        obtain ⟨t, rfl, ht⟩ := exists_segment hblock (isBoundary_of_separator hgap) hseg
        obtain ⟨b', t', z, rfl, hb', ht', hz, hcloses⟩ := ih hmore
        rw [head?_separator_append hgap, ← head?_separator_append hgap b'] at ht
        refine ⟨b, c :: t ++ (gap ++ b') ++ t', z, ?_, hb, ?_, hz, hcloses⟩
        · rw [hs]
          simp only [List.append_assoc, List.cons_append]
        · exact .more ht (separator_append_blanks hgap hb') ht'

theorem skipBlanks_append_of_startsWith {b : List Char} (hb : Blanks b)
    (hs : StartsWith startsSnippet s.head?) : skipBlanks (b ++ s) = s :=
  skipBlanks_append hb (hs.stopsAt fun _ hc => isBlank_of_goesOn (goesOn_of_startsSnippet hc))

theorem closes_cons_of_startsWith {c : Char} {u : List Char}
    (h : StartsWith startsSnippet (c :: u).head?) (v : List Char) :
    closes inBlock (c :: v) = false :=
  closes_of_startsWith (s := c :: v) rfl h

theorem run_segments_append (hblock : ReadsBlocks block Block) {b z : List Char} (hb : Blanks b)
    (hz : Blanks z) (hr : closes inBlock r)
    (ht : Segments registry Block (z ++ r).head? relation t stages) :
    (segments registry block inBlock relation).run (b ++ (t ++ (z ++ r))) = .ok (stages, r) := by
  induction ht generalizing b with
  | @last relation t stage ht =>
    have hstart := startsWith_of_segment ht
    have hskip := skipBlanks_append_of_startsWith hb (hstart.append (z ++ r))
    obtain ⟨c, u, rfl, hrun⟩ := run_segment hblock (isBoundary_of_closes hz hr) ht
    exact run_segments_eq_ok_iff.2 ⟨c, _, stage, _, none, r, [], hskip,
      closes_cons_of_startsWith hstart _, hrun, run_afterSegment_of_closes hz hr, rfl,
      .inl ⟨rfl, rfl, rfl⟩⟩
  | @more relation next t gap u stage stages ht hgap hu ih =>
    have hstart := startsWith_of_segment ht
    have hfollow := (startsWith_of_segments hu).append (z ++ r)
    obtain ⟨b', hb', hafter⟩ : ∃ b', Blanks b' ∧ (afterSegment inBlock).run
        (gap ++ (u ++ (z ++ r))) = .ok (some next, b' ++ (u ++ (z ++ r))) :=
      run_afterSegment_of_separator hgap hfollow
    rw [← head?_separator_append hgap (u ++ (z ++ r))] at ht
    have hskip := skipBlanks_append_of_startsWith hb (hstart.append (gap ++ (u ++ (z ++ r))))
    obtain ⟨c, v, rfl, hrun⟩ := run_segment hblock (isBoundary_of_separator hgap) ht
    have e : c :: v ++ gap ++ u ++ (z ++ r) = c :: v ++ (gap ++ (u ++ (z ++ r))) := by
      simp only [List.append_assoc]
    rw [e]
    exact run_segments_eq_ok_iff.2 ⟨c, _, stage, _, some next, _, stages, hskip,
      closes_cons_of_startsWith hstart _, hrun, hafter, rfl, .inr ⟨next, rfl, ih hb'⟩⟩

theorem exists_selectorWith (hblock : ReadsBlocks block Block)
    (h : (selectorWith registry block inBlock).run s = .ok (stages, r)) :
    closes inBlock r ∧ ∃ t, s = t ++ r ∧ SelectorOver registry Block r.head? t stages := by
  unfold selectorWith at h
  rw [run_blanks_bind_eq_ok_iff] at h
  obtain ⟨a, u, rfl, ha, -, h⟩ := h
  rw [Scan.run_ahead_bind] at h
  split at h
  · split at h
    · rw [Scan.run_bind] at h
      cases h
    · rw [Scan.run_bind] at h
      cases h
  · rw [Scan.run_bind_eq_ok_iff] at h
    obtain ⟨o, v, ho, h⟩ := h
    obtain ⟨b, t, z, rfl, hb, ht, hz, hcloses⟩ := exists_segments hblock h
    rw [List.head?_append] at ht
    refine ⟨hcloses, ?_⟩
    rcases run_separator_cases ho with ⟨rfl, rfl⟩ | ⟨rfl, rfl⟩ | ⟨rfl, -, rfl⟩
    · exact ⟨_, by simp, .mk ha (.slashes hb) ht hz⟩
    · exact ⟨_, by simp, .mk ha (.slash hb) ht hz⟩
    · exact ⟨_, by simp, .mk (ha.append hb) .none ht hz⟩

theorem run_separator_of_lead {lead : List Char} (h : Lead lead relation)
    (hs : StartsWith startsSnippet s.head?) :
    ∃ b o, Blanks b ∧ (separator (some .descendant)).run (lead ++ s) = .ok (o, b ++ s) ∧
      o.getD .descendant = relation := by
  cases h with
  | none => exact ⟨[], _, blanks_nil, run_separator_of_ne _ (hs.ne rfl), rfl⟩
  | @slash b hb => exact ⟨b, _, hb, run_separator_slash _ (head?_blanks_append_ne hb hs), rfl⟩
  | @slashes b hb => exact ⟨b, _, hb, run_separator_slashes _ _, rfl⟩

def startsSelector (c : Char) : Bool := startsSnippet c || c = '/'

theorem isBlank_of_startsSelector {c : Char} (h : startsSelector c) : isBlank c = false := by
  simp only [startsSelector, Bool.or_eq_true, decide_eq_true_eq] at h
  rcases h with h | rfl
  · exact isBlank_of_goesOn (goesOn_of_startsSnippet h)
  · rfl

theorem startsWith_of_lead {lead : List Char} (h : Lead lead relation)
    (hs : StartsWith startsSnippet s.head?) : StartsWith startsSelector (lead ++ s).head? := by
  cases h with
  | none => exact hs.mono fun c hc => by simp [startsSelector, hc]
  | slash | slashes => exact ⟨'/', rfl, rfl⟩

theorem run_selectorWith (hblock : ReadsBlocks block Block) (hr : closes inBlock r)
    (ht : SelectorOver registry Block r.head? t stages) :
    (selectorWith registry block inBlock).run (t ++ r) = .ok (stages, r) := by
  cases ht with
  | @mk a lead t z relation stages ha hlead ht hz =>
    rw [← List.head?_append] at ht
    have hstart := (startsWith_of_segments ht).append (z ++ r)
    obtain ⟨b, o, hb, hsep, ho⟩ := run_separator_of_lead hlead hstart
    have hlead := startsWith_of_lead hlead hstart
    have hopen : closes inBlock (lead ++ (t ++ (z ++ r))) = false := closes_of_startsWith rfl hlead
    have e : a ++ lead ++ t ++ z ++ r = a ++ (lead ++ (t ++ (z ++ r))) := by
      simp only [List.append_assoc]
    unfold selectorWith
    rw [e]
    refine run_blanks_bind_eq_ok_iff.2 ⟨a, _, rfl, ha, ?_, ?_⟩
    · exact hlead.stopsAt fun _ => isBlank_of_startsSelector
    rw [Scan.run_ahead_bind, if_neg (Bool.eq_false_iff.1 hopen)]
    refine Scan.run_bind_eq_ok_iff.2 ⟨o, _, hsep, ?_⟩
    rw [ho]
    exact run_segments_append hblock hb hz hr ht

theorem readsBlocks_blockTooDeep : ReadsBlocks blockTooDeep fun _ _ => False := by
  intro start s f r
  unfold blockTooDeep
  rw [run_lift_eq_ok_iff]
  exact ⟨nofun, fun ⟨_, _, _, h, _⟩ => h.elim⟩

/-- A reader of what stands in a block gives a reader of blocks. -/
theorem readsBlocks_blockOf {inner : Read (List Stage)}
    (hinner : ∀ s stages r, inner.run s = .ok (stages, '}' :: r) ↔
      ∃ t, s = t ++ '}' :: r ∧ Block t stages) : ReadsBlocks (blockOf inner) Block := by
  intro start s f r
  have htake : ∀ t : List Char,
      (t ++ '}' :: r).take ((t ++ '}' :: r).length - ('}' :: r).length) = t :=
    fun t => by rw [List.length_append, Nat.add_sub_cancel, List.take_left]
  unfold blockOf
  rw [Scan.run_ahead_bind, Scan.run_bind_eq_ok_iff]
  constructor
  · rintro ⟨stages, u, hrun, h⟩
    rw [Scan.run_ahead_bind, Scan.run_eat_bind_eq_ok_iff] at h
    rcases h with ⟨u, rfl, h⟩ | ⟨-, h⟩
    · rw [Scan.run_pure_eq_ok_iff] at h
      obtain ⟨rfl, rfl⟩ := h
      obtain ⟨t, rfl, ht⟩ := (hinner _ _ _).1 hrun
      exact ⟨t, stages, rfl, ht, by rw [htake]⟩
    · cases h
  · rintro ⟨t, stages, rfl, ht, rfl⟩
    refine ⟨stages, '}' :: r, (hinner _ _ _).2 ⟨t, rfl, ht⟩, ?_⟩
    rw [Scan.run_ahead_bind, Scan.run_eat_bind_eq_ok_iff]
    exact .inl ⟨r, rfl, by rw [htake]; rfl⟩

theorem run_selectorWith_eq_ok_iff (hblock : ReadsBlocks block Block) :
    (selectorWith registry block inBlock).run s = .ok (stages, r) ↔
      closes inBlock r ∧ ∃ t, s = t ++ r ∧ SelectorOver registry Block r.head? t stages := by
  constructor
  · exact exists_selectorWith hblock
  · rintro ⟨hr, t, rfl, ht⟩
    exact run_selectorWith hblock hr ht

/-- On every level the reader of selectors takes exactly the selectors of that level. -/
theorem run_selector_eq_ok_iff (levels : Nat) :
    (selector registry levels inBlock).run s = .ok (stages, r) ↔
      closes inBlock r ∧ ∃ t, s = t ++ r ∧ IsSelector registry levels r.head? t stages := by
  induction levels generalizing inBlock s stages r with
  | zero => exact run_selectorWith_eq_ok_iff readsBlocks_blockTooDeep
  | succ levels ih =>
    refine run_selectorWith_eq_ok_iff (readsBlocks_blockOf fun s stages r => ?_)
    rw [ih]
    simp [closes]

/-- Outside of blocks a selector is read up to the end of the text. -/
theorem run_selector_false_eq_ok_iff (levels : Nat) :
    (selector registry levels false).run s = .ok (stages, r) ↔
      r = [] ∧ IsSelector registry levels none s stages := by
  rw [run_selector_eq_ok_iff]
  constructor
  · rintro ⟨hr, t, rfl, ht⟩
    cases r with
    | nil =>
      rw [List.append_nil]
      exact ⟨rfl, ht⟩
    | cons c r => cases hr
  · rintro ⟨rfl, ht⟩
    exact ⟨rfl, s, (List.append_nil s).symm, ht⟩

end Selector

namespace Registry

open Text

variable {registry : Registry} {text : String} {p : Pattern} {stages : List Stage}

theorem compile_eq (hlength : byteLength text.toList ≤ Limits.maxSelectorLength) :
    registry.compile text =
      match (Selector.selector registry Limits.maxBlockDepth false).run text.toList with
      | .ok (stages, _) => .ok ⟨trimString text, stages⟩
      | .error stop => .error (stop.toError text.toList) := by
  unfold compile Limits.checkSelector
  dsimp only
  rw [if_pos hlength]
  rfl

theorem isSelector_of_compile (h : registry.compile text = .ok p) :
    byteLength text.toList ≤ Limits.maxSelectorLength ∧ p.source = trimString text ∧
      Grammar.IsSelector registry Limits.maxBlockDepth none text.toList p.stages := by
  by_cases hlength : byteLength text.toList ≤ Limits.maxSelectorLength
  · rw [compile_eq hlength] at h
    cases hrun : (Selector.selector registry Limits.maxBlockDepth false).run text.toList with
    | error stop => rw [hrun] at h; cases h
    | ok x =>
      obtain ⟨stages, r⟩ := x
      rw [hrun] at h
      cases h
      exact ⟨hlength, rfl, ((Selector.run_selector_false_eq_ok_iff _).1 hrun).2⟩
  · unfold compile Limits.checkSelector at h
    dsimp only at h
    rw [if_neg hlength] at h
    cases h

theorem compile_of_isSelector (hlength : byteLength text.toList ≤ Limits.maxSelectorLength)
    (h : Grammar.IsSelector registry Limits.maxBlockDepth none text.toList stages) :
    registry.compile text = .ok ⟨trimString text, stages⟩ := by
  rw [compile_eq hlength, (Selector.run_selector_false_eq_ok_iff _).2 ⟨rfl, h⟩]

end Registry

end GraphSelect
