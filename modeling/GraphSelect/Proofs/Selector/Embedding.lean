import GraphSelect.Proofs.Selector.Grammar
import GraphSelect.Proofs.Selector.Token

/-!
# Selectors in other places

Whether a text is a selector depends on where it stands in two ways: on the character behind it,
and on the number of levels that blocks may still be nested. A selector at the end of a text can
stand in front of every character that may follow an index, and with fewer levels when its blocks
are not nested any deeper.
-/
namespace GraphSelect

open Text

mutual

def Filter.depth : Filter → Nat
  | .has ⟨_, stages⟩ => Stage.depthAll stages + 1
  | .any | .name _ | .hasAttribute .. | .index _ | .adjacent | .origin | .function .. => 0

def Filter.depthAll : List Filter → Nat
  | [] => 0
  | f :: rest => max f.depth (Filter.depthAll rest)

def Stage.depth : Stage → Nat
  | ⟨_, filters⟩ => Filter.depthAll filters

def Stage.depthAll : List Stage → Nat
  | [] => 0
  | stage :: rest => max stage.depth (Stage.depthAll rest)

end

/-- How deep blocks are nested in a pattern; a pattern without blocks has depth zero. -/
def Pattern.depth (p : Pattern) : Nat := Stage.depthAll p.stages

namespace Grammar

variable {registry : Registry} {Block Inner : List Char → List Stage → Prop} {t : List Char}
  {next following : Option Char} {relation : Relation} {stages : List Stage} {levels : Nat}

theorem stopsAt_of_mayFollowIndex {p : Char → Bool} (hp : ∀ c, mayFollowIndex c → p c = false)
    (h : StopsAt (!mayFollowIndex ·) next) : StopsAt p next := by
  intro c hc
  exact hp c (by simpa using h c hc)

theorem isIdentChar_of_mayFollowIndex {c : Char} (h : mayFollowIndex c) :
    Selector.isIdentChar c = false := by
  simp only [mayFollowIndex, Bool.or_eq_true, decide_eq_true_eq] at h
  rcases h with (((h | rfl) | rfl) | rfl) | rfl
  · exact Selector.isIdentChar_of_isBlank h
  all_goals rfl

theorem ne_of_stopsAt {c : Char} (hc : mayFollowIndex c = false)
    (h : StopsAt (!mayFollowIndex ·) next) : next ≠ some c := by
  rintro rfl
  rw [stopsAt_some, hc] at h
  cases h

section

variable (hf : StopsAt (!mayFollowIndex ·) following)

include hf

theorem Snippet.before {f : Filter} (h : Snippet registry Block next t f) :
    Snippet registry Block following t f := by
  cases h with
  | quoted ht hr => exact .quoted ht hr
  | word ht _ _ hr =>
    have hword := stopsAt_of_mayFollowIndex (fun _ => isIdentChar_of_mayFollowIndex) hf
    exact .word ht hword (ne_of_stopsAt rfl hf) hr
  | star => exact .star (ne_of_stopsAt rfl hf)
  | index hne hd hbound => exact .index hne hd hbound hf
  | clause ht => exact .clause ht
  | call hw ht hr => exact .call hw ht hr
  | block ht => exact .block ht

theorem Snippets.before {fs : List Filter} (h : Snippets registry Block next t fs) :
    Snippets registry Block following t fs := by
  induction h with
  | last ht => exact .last (ht.before hf)
  | more ht _ ih => exact .more ht ih

theorem Segment.before {stage : Stage} (h : Segment registry Block relation next t stage) :
    Segment registry Block relation following t stage := by
  cases h with
  | here => exact .here
  | anywhere => exact .anywhere
  | filters hdot ht => exact .filters hdot (ht.before hf)

theorem Segments.before (h : Segments registry Block next relation t stages) :
    Segments registry Block following relation t stages := by
  induction h with
  | last ht => exact .last (ht.before hf)
  | more ht hgap _ ih => exact .more ht hgap ih

theorem SelectorOver.before (h : SelectorOver registry Block next t stages) :
    SelectorOver registry Block following t stages := by
  obtain @⟨a, lead, t, z, _, _, ha, hlead, ht, hz⟩ := h
  refine .mk ha hlead ?_ hz
  cases z with
  | nil => exact ht.before hf
  | cons c z => exact ht

theorem IsSelector.before (h : IsSelector registry levels next t stages) :
    IsSelector registry levels following t stages := by
  cases levels with
  | zero => exact SelectorOver.before hf h
  | succ levels => exact SelectorOver.before hf h

end

section

variable {bound : Nat}
  (hb : ∀ t stages, Block t stages → Stage.depthAll stages < bound → Inner t stages)

include hb

theorem Snippet.of_depth_le {f : Filter} (h : Snippet registry Block next t f)
    (hd : f.depth ≤ bound) : Snippet registry Inner next t f := by
  cases h with
  | quoted ht hr => exact .quoted ht hr
  | word ht hnext hcall hr => exact .word ht hnext hcall hr
  | star hnext => exact .star hnext
  | index hne hdigits hbound hnext => exact .index hne hdigits hbound hnext
  | clause ht => exact .clause ht
  | call hw ht hr => exact .call hw ht hr
  | block ht =>
    rw [Filter.depth] at hd
    exact .block (hb _ _ ht hd)

theorem Snippets.of_depth_le {fs : List Filter} (h : Snippets registry Block next t fs)
    (hd : Filter.depthAll fs ≤ bound) : Snippets registry Inner next t fs := by
  induction h with
  | last ht =>
    rw [Filter.depthAll, Nat.max_le] at hd
    exact .last (ht.of_depth_le hb hd.1)
  | more ht _ ih =>
    rw [Filter.depthAll, Nat.max_le] at hd
    exact .more (ht.of_depth_le hb hd.1) (ih hd.2)

theorem Segment.of_depth_le {stage : Stage} (h : Segment registry Block relation next t stage)
    (hd : stage.depth ≤ bound) : Segment registry Inner relation next t stage := by
  cases h with
  | here => exact .here
  | anywhere => exact .anywhere
  | filters hdot ht =>
    rw [Stage.depth] at hd
    exact .filters hdot (ht.of_depth_le hb hd)

theorem Segments.of_depth_le (h : Segments registry Block next relation t stages)
    (hd : Stage.depthAll stages ≤ bound) : Segments registry Inner next relation t stages := by
  induction h with
  | last ht =>
    rw [Stage.depthAll, Nat.max_le] at hd
    exact .last (ht.of_depth_le hb hd.1)
  | more ht hgap _ ih =>
    rw [Stage.depthAll, Nat.max_le] at hd
    exact .more (ht.of_depth_le hb hd.1) hgap (ih hd.2)

theorem SelectorOver.of_depth_le (h : SelectorOver registry Block next t stages)
    (hd : Stage.depthAll stages ≤ bound) : SelectorOver registry Inner next t stages := by
  obtain ⟨ha, hlead, ht, hz⟩ := h
  exact .mk ha hlead (ht.of_depth_le hb hd) hz

end

/-- A selector needs only as many levels as its blocks are nested deep. -/
theorem IsSelector.of_depth_le {bound : Nat} (h : IsSelector registry levels next t stages)
    (hd : Stage.depthAll stages ≤ bound) : IsSelector registry bound next t stages := by
  induction levels generalizing bound next t stages with
  | zero =>
    cases bound with
    | zero => exact h
    | succ bound => exact SelectorOver.of_depth_le (fun _ _ hblock _ => hblock.elim) h hd
  | succ levels ih =>
    cases bound with
    | zero => exact SelectorOver.of_depth_le (fun _ _ _ hlt => absurd hlt (Nat.not_lt_zero _)) h hd
    | succ bound =>
      exact SelectorOver.of_depth_le (fun _ _ hblock hlt => ih hblock (Nat.le_of_lt_succ hlt)) h hd

end Grammar

end GraphSelect
