import GraphSelect.Proofs.Selector.Shape
import GraphSelect.Proofs.Selector.SnippetAgreement

/-!
# Selectors by byte positions

A segment takes a character, and what follows it is the end of the selector or a gap, so the loop
over the segments ends within as many rounds as the text has characters. A block takes its brace, so
the blocks inside each other use up the text in the same way. The compiler on byte positions
therefore ends like the compiler, whatever the text: it never slices out of the text or through a
character, none of its checks fails, and it does not run out of rounds.
-/
namespace GraphSelect.Cursor

open Text
open Selector (Read snippet?)

variable {registry : Registry} {src s : List Char} {c : Char} {rounds depth : Nat}
  {reader : List Char → Read Filter} {inBlock : Bool}

theorem run_stars (hs : c :: s <:+ src) :
    (startsWith ['*', '*'] >>= fun b =>
        if b then isBoundary inBlock 2 else pure false).run src (place src (c :: s)) =
      .ok (c = '*' && s.head? = some '*' && Selector.isBoundary inBlock s.tail,
        place src (c :: s)) := by
  rw [run_bind_of_ok (run_startsWith _ hs)]
  by_cases hstars : c = '*' ∧ s.head? = some '*'
  · obtain ⟨rfl, hhead⟩ := hstars
    obtain ⟨u, rfl⟩ := List.head?_eq_some_iff.1 hhead
    exact run_isBoundary (t := ['*', '*']) hs
  · have hahead : ['*', '*'].isPrefixOf (c :: s) = false := by
      rw [Bool.eq_false_iff]
      intro h
      obtain ⟨u, hu⟩ := List.isPrefixOf_iff_prefix.1 h
      obtain ⟨rfl, rfl⟩ := List.cons.inj hu
      exact hstars ⟨rfl, rfl⟩
    have hnot : (c = '*' && s.head? = some '*' : Bool) = false := by simpa using hstars
    rw [hahead, hnot]
    rfl

theorem run_dot (hs : c :: s <:+ src) :
    (startsWith ['.'] >>= fun b =>
        if b then isBoundary inBlock 1 else pure false).run src (place src (c :: s)) =
      .ok (c = '.' && Selector.isBoundary inBlock s, place src (c :: s)) := by
  rw [run_bind_of_ok (run_startsWith _ hs)]
  by_cases hdot : c = '.'
  · subst hdot
    exact run_isBoundary (t := ['.']) hs
  · have hahead : ['.'].isPrefixOf (c :: s) = false := by
      rw [List.isPrefixOf, beq_eq_false_iff_ne.2 (Ne.symm hdot), Bool.false_and]
    rw [hahead, decide_eq_false hdot]
    rfl

theorem agree_separator (otherwise : Option Relation) (hs : s <:+ src) :
    Agree registry src ((separator otherwise).run src (place src s))
      ((Selector.separator otherwise).run s) := by
  have hslashes : Agree registry src ((eatAll ['/', '/']).run src (place src s))
      ((Scan.eatAll ['/', '/'] : Read Bool).run s) := by
    rw [run_eatAll _ hs, Scan.run_eatAll]
    split
    · exact agree_ok ((List.drop_suffix _ s).trans hs)
    · exact agree_ok hs
  refine hslashes.bind fun two r _ hr => ?_
  cases two with
  | true => exact agree_pure _ hr
  | false =>
    refine (agree_eat '/' hr).bind fun one r _ hr => ?_
    cases one <;> exact agree_pure _ hr

/-- Blanks are counted by bytes or by what is left behind them. -/
theorem byteLength_blanks_pos_iff :
    0 < byteLength (s.takeWhile isBlank) ↔ (skipBlanks s).length < s.length := by
  have hlength : s.length = (s.takeWhile isBlank).length + (skipBlanks s).length := by
    rw [← List.length_append, skipBlanks, List.takeWhile_append_dropWhile]
  rw [Nat.pos_iff_ne_zero, ne_eq, byteLength_eq_zero_iff, ← List.length_eq_zero_iff]
  omega

theorem agree_afterSegment (hs : s <:+ src) :
    Agree registry src ((afterSegment inBlock).run src (place src s))
      ((Selector.afterSegment inBlock).run s) := by
  have hskip := suffix_skipBlanks hs
  unfold afterSegment Selector.afterSegment
  rw [Scan.run_ahead_bind]
  refine agree_blanks_bind hs ?_
  rw [run_bind_of_ok (run_atClose hskip), Scan.run_ahead_bind]
  split
  · exact agree_pure _ hskip
  · next hopen =>
    simp only [byteLength_blanks_pos_iff, decide_eq_true_eq]
    refine (agree_separator _ hskip).bind fun o r hrun hr => ?_
    cases o with
    | some next => exact agree_pure _ hr
    | none =>
      rcases Selector.run_separator_cases hrun with ⟨-, he⟩ | ⟨-, he⟩ | ⟨rfl, -, -⟩
      · cases he
      · cases he
      · cases hskipped : skipBlanks s with
        | nil => exact absurd (by rw [hskipped]; rfl) hopen
        | cons c u =>
          rw [hskipped] at hr
          exact ⟨.fault hr, run_unexpected_cons hr⟩

section

variable {block : Move (Option Filter)} {bound : Nat}
  (hblock : AgreeOnBlocks registry src bound block reader)

include hblock

theorem agree_segment {perSnippet : Nat} {relation : Relation} (hs : c :: s <:+ src)
    (hbound : (c :: s).length ≤ bound) (hsnippet : bound ≤ perSnippet)
    (hrounds : (c :: s).length < rounds) :
    Agree registry src
      ((segment (snippet registry block perSnippet) rounds inBlock relation).run src
        (place src (c :: s)))
      ((Selector.segment registry reader inBlock relation c).run s) := by
  unfold segment Selector.segment
  rw [run_bind_of_ok (run_stars hs), Scan.run_ahead_bind]
  split
  · next hstars =>
    obtain ⟨⟨rfl, hhead⟩, -⟩ : (c = '*' ∧ s.head? = some '*') ∧
        Selector.isBoundary inBlock s.tail := by simpa using hstars
    obtain ⟨u, rfl⟩ := List.head?_eq_some_iff.1 hhead
    have htake : (advance 2).run src (place src ('*' :: '*' :: u)) = .ok ((), place src u) :=
      run_advance (t := ['*', '*']) hs
    rw [run_bind_of_ok htake]
    exact agree_ok (suffix_of_cons (suffix_of_cons hs))
  · rw [run_bind_of_ok (run_dot hs)]
    split
    · next hdot =>
      obtain ⟨rfl, -⟩ : c = '.' ∧ Selector.isBoundary inBlock s := by simpa using hdot
      have htake : (advance 1).run src (place src ('.' :: s)) = .ok ((), place src s) :=
        run_advance (t := ['.']) hs
      rw [run_bind_of_ok htake]
      exact agree_ok (suffix_of_cons hs)
    · have hfilters := agree_snippets hblock hs hbound hsnippet hrounds
      rw [Selector.run_snippets_cons] at hfilters
      cases hp : snippet? registry reader c s with
      | none =>
        rw [hp] at hfilters
        rw [run_bind_of_ok hfilters.2]
        exact ⟨.fault hs, run_unexpected_cons hs⟩
      | some p =>
        rw [hp] at hfilters
        dsimp only at hfilters ⊢
        rw [Scan.run_bind]
        cases hrun : p.run s with
        | error stop =>
          rw [hrun] at hfilters
          exact ⟨hfilters.1, run_bind_of_error hfilters.2⟩
        | ok x =>
          obtain ⟨f, r⟩ := x
          rw [hrun] at hfilters
          dsimp only at hfilters ⊢
          rw [Scan.run_bind]
          cases hfs : (Selector.snippets registry reader).run r with
          | error stop =>
            rw [hfs] at hfilters
            exact ⟨hfilters.1, run_bind_of_error hfilters.2⟩
          | ok y =>
            rw [hfs] at hfilters
            exact ⟨hfilters.1, run_bind_of_ok hfilters.2⟩

omit hblock in
theorem run_segments_of_eq_cons {relation : Relation} {u : List Char}
    (hskip : skipBlanks s = c :: u)
    (hopen : Selector.closes inBlock (c :: u) = false) :
    (Selector.segments registry reader inBlock relation).run s =
      (Selector.segment registry reader inBlock relation c >>= fun stage =>
        Selector.afterSegment inBlock >>= fun
          | none => pure [stage]
          | some next =>
            Selector.segments registry reader inBlock next >>= fun stages =>
              pure (stage :: stages)).run u := by
  rw [Selector.run_segments, hskip, Scan.run_bind]
  dsimp only
  rw [hopen, if_neg Bool.false_ne_true]
  cases (Selector.segment registry reader inBlock relation c).run u with
  | error stop => rfl
  | ok x =>
    dsimp only
    rw [Scan.run_bind]
    rcases (Selector.afterSegment inBlock).run x.2 with stop | ⟨next, r⟩
    · rfl
    · cases next with
      | none => rfl
      | some next =>
        dsimp only
        rw [Scan.run_bind]
        cases (Selector.segments registry reader inBlock next).run r <;> rfl

/-- Every segment takes a character, so there are no more rounds than characters. -/
theorem agree_segments {perSegment : Nat} {relation : Relation} (hs : s <:+ src)
    (hbound : s.length ≤ bound) (hsegment : bound < perSegment) (hrounds : s.length < rounds) :
    Agree registry src
      ((segments (snippet registry block perSegment) perSegment inBlock rounds relation).run src
        (place src s))
      ((Selector.segments registry reader inBlock relation).run s) := by
  induction rounds generalizing s relation with
  | zero => cases hrounds
  | succ rounds ih =>
    have hskip := suffix_skipBlanks hs
    have hle := length_skipBlanks_le s
    rw [segments, run_bind_of_ok (run_blanks hs), run_bind_of_ok (run_atClose hskip)]
    cases hskipped : skipBlanks s with
    | nil =>
      rw [Selector.run_segments, hskipped]
      exact ⟨.fault List.nil_suffix, rfl⟩
    | cons c u =>
      rw [hskipped] at hskip hle
      cases hcloses : Selector.closes inBlock (c :: u) with
      | true =>
        rw [Selector.run_segments, hskipped]
        dsimp only
        rw [hcloses, if_pos rfl, if_pos rfl]
        exact ⟨.fault hskip, rfl⟩
      | false =>
        rw [run_segments_of_eq_cons hskipped hcloses, if_neg Bool.false_ne_true]
        refine (agree_segment hblock hskip (by omega) (by omega) (by omega)).bind
          fun stage r hrun hr => ?_
        have hlength : r.length < (c :: u).length := Nat.lt_succ_of_le (Scan.length_le_of_run hrun)
        refine (agree_afterSegment hr).bind fun next v hgap hv => ?_
        cases next with
        | none => exact agree_pure _ hv
        | some next =>
          have hle := Scan.length_le_of_run hgap
          exact (ih hv (by omega) (by omega)).bind fun _ _ _ hw => agree_pure _ hw

theorem agree_selectorWith (hs : s <:+ src) (hbound : s.length ≤ bound) (hrounds : bound < rounds) :
    Agree registry src
      ((selectorWith (snippet registry block rounds) rounds inBlock).run src (place src s))
      ((Selector.selectorWith registry reader inBlock).run s) := by
  have hskip := suffix_skipBlanks hs
  unfold selectorWith Selector.selectorWith
  refine agree_blanks_bind hs ?_
  rw [run_bind_of_ok (run_atClose hskip), Scan.run_ahead_bind]
  split
  · split
    · exact ⟨.fault hskip, rfl⟩
    · exact ⟨.unplaced ⟨rfl, nofun⟩, rfl⟩
  · refine (agree_separator _ hskip).bind fun relation r hrun hr => ?_
    have hle := Nat.le_trans (Scan.length_le_of_run hrun) (length_skipBlanks_le s)
    exact agree_segments hblock hr (by omega) hrounds (by omega)

end

theorem agreeOnBlocks_tooDeep {bound : Nat} (inner : Move (List Stage)) :
    AgreeOnBlocks registry src bound (blockSnippet inner Limits.maxBlockDepth)
      Selector.blockTooDeep := by
  refine ⟨fun s hs hne => run_blockSnippet_of_ne hs hne, fun s hs _ => ?_⟩
  unfold blockSnippet
  rw [run_bind_of_ok run_position, run_bind_of_ok (run_eat_cons hs), if_pos rfl]
  exact ⟨.unplaced ⟨rfl, nofun⟩, rfl⟩

/-- The text of a block is a slice behind its brace. -/
theorem agreeOnBlocks_blockOf {bound : Nat} {inner : Move (List Stage)} {p : Read (List Stage)}
    (hdepth : depth < Limits.maxBlockDepth)
    (hne : ∀ s stages r, p.run s = .ok (stages, r) → stages ≠ [])
    (hinner : ∀ s, s <:+ src → s.length < bound →
      Agree registry src (inner.run src (place src s)) (p.run s)) :
    AgreeOnBlocks registry src bound (blockSnippet inner depth) (Selector.blockOf p) := by
  refine ⟨fun s hs hbrace => run_blockSnippet_of_ne hs hbrace, fun s hs hlength => ?_⟩
  have hs' : s <:+ src := suffix_of_cons hs
  unfold blockSnippet
  rw [run_bind_of_ok run_position, run_bind_of_ok (run_eat_cons hs), if_pos rfl]
  refine Agree.some ?_
  have hcheck : Limits.checkBlockDepth (depth + 1) = .ok () := if_pos hdepth
  have hstart : place src ('\x7b' :: s) + 1 = place src s := place_append (t := ['\x7b']) hs
  have hagree := hinner s hs' hlength
  unfold block Selector.blockOf
  rw [hcheck, run_bind_of_ok rfl, Scan.run_ahead_bind, Scan.run_bind]
  cases hrun : p.run s with
  | error stop =>
    rw [hrun] at hagree
    exact ⟨hagree.1, run_bind_of_error hagree.2⟩
  | ok x =>
    obtain ⟨stages, r⟩ := x
    rw [hrun] at hagree
    obtain ⟨hr, hagree⟩ := hagree
    obtain ⟨t, rfl⟩ := List.suffix_of_suffix_length_le hr hs' (Scan.length_le_of_run hrun)
    have hslice := run_slice hs' (place src r)
    rw [place_append hs'] at hslice
    have htake : (t ++ r).take ((t ++ r).length - r.length) = t := by
      rw [List.length_append, Nat.add_sub_cancel, List.take_left]
    have hstages : stages.isEmpty = false := by simpa using hne _ _ _ hrun
    rw [run_bind_of_ok hagree, run_bind_of_ok run_position, hstart, run_bind_of_ok hslice]
    dsimp only
    rw [Scan.run_ahead_bind, htake]
    refine (agree_eat '}' hr).bind fun closed u _ hu => ?_
    cases closed with
    | true =>
      have hpattern : newPattern (String.ofList (trim t)) stages =
          pure ⟨String.ofList (trim t), stages⟩ := if_neg (by simpa using hstages)
      rw [hpattern]
      exact agree_pure _ hu
    | false => exact agree_fault hs

/-- What is left of the text gets shorter with each block inside another one. -/
theorem agree_selector {levels : Nat} (hs : s <:+ src)
    (hlevels : depth + levels = Limits.maxBlockDepth) (hrounds : s.length + 1 < rounds) :
    Agree registry src ((selector registry rounds depth inBlock).run src (place src s))
      ((Selector.selector registry levels inBlock).run s) := by
  induction rounds generalizing s depth levels inBlock with
  | zero => cases hrounds
  | succ rounds ih =>
    rw [selector]
    have hlength : s.length < rounds := Nat.lt_of_succ_lt_succ hrounds
    cases levels with
    | zero =>
      cases hlevels
      exact agree_selectorWith (agreeOnBlocks_tooDeep _) hs (Nat.le_refl _) hlength
    | succ levels =>
      have hblock : AgreeOnBlocks registry src s.length
          (blockSnippet (selector registry rounds (depth + 1) true) depth)
          (Selector.blockOf (Selector.selector registry levels true)) := by
        refine agreeOnBlocks_blockOf (by omega) (fun u stages r hrun => ?_) fun u hu hlt => ?_
        · obtain ⟨-, _, -, h⟩ := (Selector.run_selector_eq_ok_iff levels).1 hrun
          exact h.filled.ne_nil
        · exact ih hu (by omega) (by omega)
      exact agree_selectorWith hblock hs (Nat.le_refl _) hlength

/-- With as many rounds as the text has bytes, and two more, the compiler on byte positions ends like
the compiler. -/
theorem compile_eq_mapError (registry : Registry) (text : String)
    (hrounds : byteLength text.toList + 2 ≤ rounds) :
    compile registry rounds text = (registry.compile text).mapError .error := by
  unfold compile whole
  by_cases hlength : byteLength text.toList ≤ Limits.maxSelectorLength
  · have hcheck : Limits.checkSelector text.toList = .ok () := if_pos hlength
    have hagree : Agree registry text.toList ((selector registry rounds 0 false).run text.toList 0)
        ((Selector.selector registry Limits.maxBlockDepth false).run text.toList) := by
      have hle := length_le_byteLength text.toList
      have h : Agree registry text.toList ((selector registry rounds 0 false).run _ _)
          ((Selector.selector registry Limits.maxBlockDepth false).run _) :=
        agree_selector (List.suffix_refl text.toList) (Nat.zero_add Limits.maxBlockDepth) (by omega)
      rwa [place_self] at h
    rw [hcheck, run_bind_of_ok rfl, Registry.compile_eq hlength]
    cases hrun : (Selector.selector registry Limits.maxBlockDepth false).run text.toList with
    | error stop =>
      rw [hrun] at hagree
      rw [run_bind_of_error hagree.2]
      rfl
    | ok x =>
      obtain ⟨stages, r⟩ := x
      rw [hrun] at hagree
      obtain ⟨rfl, h⟩ := (Selector.run_selector_false_eq_ok_iff _).1 hrun
      have hend : atEnd.run text.toList _ = .ok (true, _) := run_atEnd List.nil_suffix
      have hpattern : newPattern (trimString text) stages = pure ⟨trimString text, stages⟩ :=
        if_neg (by simpa using h.filled.ne_nil)
      rw [run_bind_of_ok hagree.2, run_bind_of_ok hend, hpattern]
      rfl
  · have hcheck : Limits.checkSelector text.toList =
        .error (.selectorTooLong (byteLength text.toList) Limits.maxSelectorLength) := if_neg hlength
    have hcompile : registry.compile text =
        .error (.selectorTooLong (byteLength text.toList) Limits.maxSelectorLength) := by
      unfold Registry.compile
      dsimp only
      rw [hcheck]
      rfl
    rw [hcheck, hcompile]
    rfl

end GraphSelect.Cursor
