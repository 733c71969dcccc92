import GraphSelect.Proofs.Selector.Acceptance
import GraphSelect.Proofs.Selector.Embedding
import GraphSelect.Proofs.Selector.Evaluation

/-!
# A block behind a selector

A selector in braces behind another one is one more filter of its last segment, provided that this
segment takes filters at all: a dot or two stars do not, and behind a blank the block would be a
segment of its own. A filter more changes neither the candidates nor their order, and whether a
block accepts a node does not depend on how the node was reached. So the block keeps of what is
found the nodes from which its own selector finds something, under the same strategy and limit.
-/
namespace GraphSelect

open Text

namespace Grammar

open Selector (startsWith_of_snippets)

variable {registry : Registry} {Block : List Char → List Stage → Prop} {t u : List Char}
  {next : Option Char} {relation : Relation} {stages inner : List Stage}

def blockFilter (u : List Char) (inner : List Stage) : Filter := .has ⟨String.ofList (trim u), inner⟩

theorem Snippets.append_block {fs : List Filter} (h : Snippets registry Block none t fs)
    (hu : Block u inner) :
    Snippets registry Block next (t ++ '\x7b' :: (u ++ ['}'])) (fs ++ [blockFilter u inner]) := by
  have hblock : Snippet registry Block next ('\x7b' :: (u ++ ['}'])) (blockFilter u inner) :=
    .block hu
  induction h with
  | last ht => exact .more (ht.before ((stopsAt_some _ _).2 rfl)) (.last hblock)
  | @more t v f fs ht hv ih =>
    have hhead : (v ++ '\x7b' :: (u ++ ['}'])).head? = v.head? := by
      obtain ⟨c, hc, -⟩ := startsWith_of_snippets hv
      rw [List.head?_append, hc]
      rfl
    rw [← hhead] at ht
    rw [List.append_assoc]
    exact .more ht ih

/-- Whether the last of some stages is that of a segment which is neither a dot nor two stars. -/
def EndsInFilters (stages : List Stage) : Prop :=
  ∀ stage, stages.getLast? = some stage → stage.relation ≠ .current ∧ stage.relation ≠ .wildcard

/-- A block at the end of a row of segments is a filter of the last one. -/
theorem Segments.append_block (h : Segments registry Block none relation t stages)
    (hlast : EndsInFilters stages) (hu : Block u inner) :
    ∃ init via fs, stages = init ++ [⟨via, fs⟩] ∧
      Segments registry Block next relation (t ++ '\x7b' :: (u ++ ['}']))
        (init ++ [⟨via, fs ++ [blockFilter u inner]⟩]) := by
  induction h with
  | @last relation t stage ht =>
    cases ht with
    | here => exact absurd rfl (hlast _ rfl).1
    | anywhere => exact absurd rfl (hlast _ rfl).2
    | @filters _ fs hdot ht =>
      have hne : t ++ '\x7b' :: (u ++ ['}']) ≠ ['.'] := by
        intro he
        have hlength := congrArg List.length he
        simp only [List.length_append, List.length_cons, List.length_nil] at hlength
        omega
      exact ⟨[], relation, fs, rfl, .last (.filters hne (ht.append_block hu))⟩
  | @more relation following t gap v stage stages ht hgap hv ih =>
    have hrest : EndsInFilters stages := by
      intro last he
      exact hlast last (by rw [List.getLast?_cons, he]; rfl)
    obtain ⟨init, via, fs, rfl, hblock⟩ := ih hrest
    refine ⟨stage :: init, via, fs, rfl, ?_⟩
    rw [List.append_assoc (t ++ gap)]
    exact .more ht hgap hblock

theorem SelectorOver.append_block (h : SelectorOver registry Block none t stages)
    (hblank : StopsAt isBlank t.getLast?) (hlast : EndsInFilters stages) (hu : Block u inner) :
    ∃ init via fs, stages = init ++ [⟨via, fs⟩] ∧
      SelectorOver registry Block next (t ++ '\x7b' :: (u ++ ['}']))
        (init ++ [⟨via, fs ++ [blockFilter u inner]⟩]) := by
  obtain @⟨a, lead, t, z, relation, stages, ha, hlead, ht, hz⟩ := h
  obtain rfl | ⟨z, c, rfl⟩ := List.eq_nil_or_concat' z
  · rw [List.append_nil]
    obtain ⟨init, via, fs, rfl, hblock⟩ := ht.append_block hlast hu
    refine ⟨init, via, fs, rfl, ?_⟩
    rw [List.append_assoc, ← List.append_nil (t ++ _), ← List.append_assoc]
    exact .mk ha hlead hblock blanks_nil
  · have hc : isBlank c = false := hblank c (by rw [← List.append_assoc, List.getLast?_concat])
    rw [hz c (by simp)] at hc
    cases hc

theorem IsSelector.append_block {levels : Nat} (h : IsSelector registry (levels + 1) none t stages)
    (hblank : StopsAt isBlank t.getLast?) (hlast : EndsInFilters stages)
    (hu : IsSelector registry levels next u inner) :
    ∃ init via fs, stages = init ++ [⟨via, fs⟩] ∧
      IsSelector registry (levels + 1) none (t ++ '\x7b' :: (u ++ ['}']))
        (init ++ [⟨via, fs ++ [blockFilter u inner]⟩]) :=
  SelectorOver.append_block h hblank hlast (hu.before ((stopsAt_some _ _).2 rfl))

end Grammar

theorem Filter.allAccept_append (s : Search) (origin node : NodeId) (fs gs : List Filter) :
    Filter.allAccept s origin node (fs ++ gs) =
      (Filter.allAccept s origin node fs && Filter.allAccept s origin node gs) := by
  induction fs with
  | nil => rw [List.nil_append, Filter.allAccept, Bool.true_and]
  | cons f fs ih => rw [List.cons_append, Filter.allAccept, Filter.allAccept, ih, Bool.and_assoc]

theorem Filter.accepts_has (s : Search) (origin node : NodeId) (p : Pattern) :
    (Filter.has p).accepts s origin node = !(s.find p node).isEmpty := by
  obtain ⟨source, stages⟩ := p
  rw [Filter.accepts, Search.find]
  cases (s.graph.get? node).isSome <;> rfl

theorem Stage.select_append_has (s : Search) (source : NodeId) (via : Relation)
    (fs : List Filter) (p : Pattern) :
    Stage.select s source ⟨via, fs ++ [.has p]⟩ =
      (Stage.select s source ⟨via, fs⟩).filter fun n => !(s.find p n).isEmpty := by
  rw [Stage.select, Stage.select, List.filter_filter]
  refine List.filter_congr fun n _ => ?_
  rw [Filter.allAccept_append, Filter.allAccept, Filter.allAccept, Filter.accepts_has,
    Bool.and_true, Bool.and_comm]

/-- A block in the last stage filters what the stages find. -/
theorem Search.run_append_has (s : Search) (init : List Stage) (via : Relation)
    (fs : List Filter) (p : Pattern) (found : List NodeId) :
    s.run (init ++ [⟨via, fs ++ [.has p]⟩]) found =
      (s.run (init ++ [⟨via, fs⟩]) found).filter fun n => !(s.find p n).isEmpty := by
  rw [run_append, run_append, run, run, run, run, ← eraseDups_filter, List.filter_flatMap]
  simp only [Stage.select_append_has]

namespace Registry

variable {registry : Registry} {x s : String} {p q : Pattern}

/-- A selector `x` with a block of a selector `s` behind it compiles, when the last segment of `x`
takes filters and there is room for the block in the text and in the nesting. In every graph it
finds, in the same order, those nodes that `x` finds from which `s` finds something. -/
theorem exists_compile_block (hx : registry.compile x = .ok p) (hs : registry.compile s = .ok q)
    (hblank : StopsAt isBlank x.toList.getLast?) (hlast : Grammar.EndsInFilters p.stages)
    (hdepth : q.depth ≤ 15) (hlength : byteLength (x ++ "\x7b" ++ s ++ "\x7d").toList ≤ 4096) :
    ∃ row, registry.compile (x ++ "\x7b" ++ s ++ "\x7d") = .ok row ∧
      ∀ (g : Graph) (strategy : Strategy) (limit : Option Nat) (origin : NodeId),
        Search.find ⟨g, strategy, limit⟩ row origin =
          (Search.find ⟨g, strategy, limit⟩ p origin).filter fun n =>
            !(Search.find ⟨g, strategy, limit⟩ q n).isEmpty := by
  obtain ⟨-, -, hx⟩ := isSelector_of_compile hx
  obtain ⟨-, hsource, hs⟩ := isSelector_of_compile hs
  have hs : Grammar.IsSelector registry 15 none s.toList q.stages := hs.of_depth_le hdepth
  obtain ⟨init, via, fs, hstages, hrow⟩ := Grammar.IsSelector.append_block hx hblank hlast hs
  have htext : (x ++ "\x7b" ++ s ++ "\x7d").toList = x.toList ++ '\x7b' :: (s.toList ++ ['}']) := by
    simp
  have hq : Grammar.blockFilter s.toList q.stages = .has q := by
    rw [Grammar.blockFilter, ← trimString, ← hsource]
    cases q
    rfl
  rw [← htext, hq] at hrow
  refine ⟨_, compile_of_isSelector hlength hrow, fun g strategy limit origin => ?_⟩
  rw [Search.find, Search.find]
  split
  · rw [Search.run_append_has, hstages]
  · rfl

/-- Of the two nodes that the first one leads to, one leads to a further node. -/
theorem exists_compile_block_fork :
    let g := Graph.build [.add "a" .plain, .add "b" .plain, .add "c" .plain, .add "d" .plain,
      .connect 0 1, .connect 0 2, .connect 2 3]
    ∃ row, Registry.empty.compile ("/*" ++ "\x7b" ++ "/*" ++ "\x7d") = .ok row ∧
      Search.find ⟨g, .depthFirst, some 1⟩ row 0 = [2] := by
  intro g
  have hstep : Grammar.IsSelector Registry.empty Limits.maxBlockDepth none "/*".toList
      [⟨.immediate, [.any]⟩] :=
    .mk (z := []) blanks_nil (.slash blanks_nil)
      (.last (.filters (by decide) (.last (.star (by decide))))) blanks_nil
  have hcompile := compile_of_isSelector (by decide) hstep
  have hlast : Grammar.EndsInFilters [⟨.immediate, [.any]⟩] := by
    rintro stage ⟨⟩
    decide
  obtain ⟨row, hrow, hfind⟩ := exists_compile_block hcompile hcompile
    ((stopsAt_some _ _).2 rfl) hlast (by decide) (by decide)
  refine ⟨row, hrow, ?_⟩
  rw [hfind]
  decide

end Registry

end GraphSelect
