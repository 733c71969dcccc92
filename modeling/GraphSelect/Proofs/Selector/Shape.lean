import GraphSelect.Proofs.Selector.Acceptance
import GraphSelect.Proofs.Selector.Embedding

/-!
# The shape of compiled selectors

A selector has a stage for each of its segments, and a stage has a filter for each snippet, so
neither is ever empty, in blocks as little as outside of them. A block stands one level below the
selector around it, so blocks are not nested deeper than there are levels.
-/
namespace GraphSelect

variable {p q r : Pattern} {stages : List Stage} {levels : Nat}

/-- A pattern is another one, or stands in a block of it at any level. -/
inductive Pattern.Within : Pattern → Pattern → Prop
  | self {p : Pattern} : Within p p
  | block {p q r : Pattern} {stage : Stage} (hstage : stage ∈ p.stages)
      (hq : .has q ∈ stage.filters) (h : Within r q) : Within r p

theorem Filter.depthAll_le_iff {fs : List Filter} :
    Filter.depthAll fs ≤ levels ↔ ∀ f ∈ fs, f.depth ≤ levels := by
  induction fs with
  | nil => simp [depthAll]
  | cons f fs ih => rw [depthAll, Nat.max_le, ih, List.forall_mem_cons]

theorem Stage.depthAll_le_iff :
    Stage.depthAll stages ≤ levels ↔ ∀ stage ∈ stages, ∀ f ∈ stage.filters, f.depth ≤ levels := by
  induction stages with
  | nil => simp [depthAll]
  | cons stage stages ih =>
    obtain ⟨_, filters⟩ := stage
    rw [depthAll, Nat.max_le, ih, List.forall_mem_cons, Stage.depth, Filter.depthAll_le_iff]

theorem Filter.depth_le_iff {f : Filter} :
    f.depth ≤ levels ↔ ∀ q, f = .has q → q.depth + 1 ≤ levels := by
  cases f with
  | has q =>
    obtain ⟨source, stages⟩ := q
    rw [Filter.depth]
    constructor
    · rintro h _ ⟨⟩
      exact h
    · exact fun h => h ⟨source, stages⟩ rfl
  | any | name | hasAttribute | index | adjacent | origin | function =>
    rw [Filter.depth]
    exact ⟨fun _ q hq => (Filter.noConfusion hq : q.depth + 1 ≤ levels), fun _ => Nat.zero_le _⟩

/-- The blocks of a pattern are nested at most so deep when the patterns in its blocks have a level
less. -/
theorem Pattern.depth_le_iff : p.depth ≤ levels ↔
    ∀ stage ∈ p.stages, ∀ q, .has q ∈ stage.filters → q.depth + 1 ≤ levels := by
  rw [Pattern.depth, Stage.depthAll_le_iff]
  constructor
  · exact fun h stage hstage q hq => Filter.depth_le_iff.1 (h stage hstage _ hq) q rfl
  · rintro h stage hstage f hf
    exact Filter.depth_le_iff.2 fun q hq => h stage hstage q (hq ▸ hf)

namespace Grammar

variable {registry : Registry} {Block : List Char → List Stage → Prop} {next : Option Char}
  {t : List Char} {relation : Relation}

/-- Stages of which there is one at least, each with a filter at least, and whose blocks hold stages
of a kind. -/
structure Filled (Inner : List Stage → Prop) (stages : List Stage) : Prop where
  ne_nil : stages ≠ []
  filters_ne_nil : ∀ stage ∈ stages, stage.filters ≠ []
  block : ∀ stage ∈ stages, ∀ q, .has q ∈ stage.filters → Inner q.stages

theorem Snippet.block_of_has (h : Snippet registry Block next t (.has q)) :
    ∃ t, Block t q.stages := by
  generalize hf : Filter.has q = f at h
  cases h with
  | clause ht => cases ht <;> cases hf
  | block ht =>
    cases hf
    exact ⟨_, ht⟩
  | quoted | word | star | index | call => cases hf

theorem Snippets.ne_nil {fs : List Filter} (h : Snippets registry Block next t fs) : fs ≠ [] := by
  cases h <;> exact List.cons_ne_nil _ _

theorem Snippets.block_of_has {fs : List Filter} (h : Snippets registry Block next t fs)
    (hq : .has q ∈ fs) : ∃ t, Block t q.stages := by
  induction h with
  | last ht =>
    obtain rfl := List.mem_singleton.1 hq
    exact ht.block_of_has
  | more ht _ ih =>
    rcases List.mem_cons.1 hq with rfl | hq
    · exact ht.block_of_has
    · exact ih hq

theorem Segment.filters_ne_nil {stage : Stage} (h : Segment registry Block relation next t stage) :
    stage.filters ≠ [] := by
  cases h with
  | here | anywhere => exact List.cons_ne_nil _ _
  | filters _ ht => exact ht.ne_nil

theorem Segment.block_of_has {stage : Stage} (h : Segment registry Block relation next t stage)
    (hq : .has q ∈ stage.filters) : ∃ t, Block t q.stages := by
  cases h with
  | here | anywhere => cases List.mem_singleton.1 hq
  | filters _ ht => exact ht.block_of_has hq

theorem Segments.filled (h : Segments registry Block next relation t stages) :
    Filled (fun inner => ∃ t, Block t inner) stages := by
  induction h with
  | last ht =>
    exact {
      ne_nil := List.cons_ne_nil _ _
      filters_ne_nil := List.forall_mem_singleton.2 ht.filters_ne_nil
      block := List.forall_mem_singleton.2 fun _ => ht.block_of_has }
  | more ht _ _ ih =>
    exact {
      ne_nil := List.cons_ne_nil _ _
      filters_ne_nil := List.forall_mem_cons.2 ⟨ht.filters_ne_nil, ih.filters_ne_nil⟩
      block := List.forall_mem_cons.2 ⟨fun _ => ht.block_of_has, ih.block⟩ }

theorem SelectorOver.filled (h : SelectorOver registry Block next t stages) :
    Filled (fun inner => ∃ t, Block t inner) stages := by
  obtain ⟨_, _, ht, _⟩ := h
  exact ht.filled

theorem IsSelector.filled (h : IsSelector registry levels next t stages) :
    Filled (fun inner => ∃ below t, levels = below + 1 ∧ IsSelector registry below (some '}') t inner)
      stages := by
  cases levels with
  | zero =>
    have hfilled := SelectorOver.filled h
    exact { hfilled with block := fun stage hstage q hq => (hfilled.block stage hstage q hq).elim nofun }
  | succ levels =>
    have hfilled := SelectorOver.filled h
    refine { hfilled with block := fun stage hstage q hq => ?_ }
    obtain ⟨t, ht⟩ := hfilled.block stage hstage q hq
    exact ⟨levels, t, rfl, ht⟩

end Grammar

open Grammar

variable {registry : Registry} {next : Option Char} {t : List Char}

/-- Blocks are nested no deeper than the grammar has levels. -/
theorem Pattern.depth_le_of_isSelector (h : IsSelector registry levels next t p.stages) :
    p.depth ≤ levels := by
  induction levels generalizing next t p with
  | zero =>
    refine depth_le_iff.2 fun stage hstage q hq => ?_
    obtain ⟨_, _, he, -⟩ := h.filled.block stage hstage q hq
    cases he
  | succ levels ih =>
    refine depth_le_iff.2 fun stage hstage q hq => ?_
    obtain ⟨_, _, he, ht⟩ := h.filled.block stage hstage q hq
    cases he
    exact Nat.succ_le_succ (ih ht)

/-- Whatever stands in a block of a selector is a selector, at any level. -/
theorem Pattern.Within.isSelector (hq : q.Within p)
    (h : IsSelector registry levels next t p.stages) :
    ∃ below next t, IsSelector registry below next t q.stages := by
  induction hq generalizing levels next t with
  | self => exact ⟨levels, next, t, h⟩
  | block hstage hq _ ih =>
    obtain ⟨_, _, -, ht⟩ := h.filled.block _ hstage _ hq
    exact ih ht

end GraphSelect
