import GraphSelect.Proofs.Selector.Acceptance
import GraphSelect.Proofs.Selector.Meaning
import GraphSelect.Selector.Builtin

/-!
# Patterns of the built-in functions

The built-in functions look at the graph, the origin and the candidate, and not at the order or the
limit of the search that asks them. A selector is compiled to filters that hold no functions but
those its registry makes, in its blocks too, so no pattern of built-in functions looks at the order
or the limit of a search.
-/
namespace GraphSelect

/-- Whether all predicates that a maker makes decide the same in all searches of a graph. -/
def Maker.IgnoresWalk (maker : Maker) : Prop :=
  ∀ name args accepts, maker args = .ok accepts → (Filter.function name args accepts).IgnoresWalk

def Registry.IgnoresWalk (registry : Registry) : Prop :=
  ∀ entry ∈ registry.entries, Maker.IgnoresWalk entry.2

namespace Registry

variable {registry : Registry} {P : Maker → Prop} {name : String} {maker : Maker}

theorem forall_register (hr : ∀ entry ∈ registry.entries, P entry.2) (hm : P maker) :
    ∀ entry ∈ (registry.register name maker).entries, P entry.2 := by
  intro entry hentry
  rcases List.mem_cons.1 hentry with rfl | hentry
  · exact hm
  · exact hr entry (List.mem_filter.1 hentry).1

theorem forall_find? (hr : ∀ entry ∈ registry.entries, P entry.2)
    (hfind : registry.find? name = some maker) : P maker := by
  obtain ⟨before, after, he, -⟩ := List.lookup_eq_some_iff.1 hfind
  exact hr (name, maker) (by simp [he])

end Registry

namespace Grammar

variable {registry : Registry} {Block : List Char → List Stage → Prop} {next : Option Char}
  {t : List Char} {relation : Relation} {stages : List Stage}

theorem AttributeClause.ignoresWalk {f : Filter} (h : AttributeClause t f) : f.IgnoresWalk := by
  cases h <;> exact trivial

section

variable (hr : registry.IgnoresWalk)
  (hb : ∀ t stages, Block t stages → Stage.AllIgnoreWalk stages)

include hr hb

theorem Snippet.ignoresWalk {f : Filter} (h : Snippet registry Block next t f) :
    f.IgnoresWalk := by
  cases h with
  | quoted | word | star | index => exact trivial
  | clause ht => exact ht.ignoresWalk
  | @call w _ as accepts hw ht hresolve =>
    unfold Registry.resolve at hresolve
    split at hresolve
    · next maker hfind => exact Registry.forall_find? hr hfind _ _ _ hresolve
    · cases hresolve
  | block ht => exact hb _ _ ht

theorem Snippets.ignoresWalk {fs : List Filter} (h : Snippets registry Block next t fs) :
    Filter.AllIgnoreWalk fs := by
  induction h with
  | last ht => exact ⟨ht.ignoresWalk hr hb, trivial⟩
  | more ht _ ih => exact ⟨ht.ignoresWalk hr hb, ih⟩

theorem Segment.ignoresWalk {stage : Stage} (h : Segment registry Block relation next t stage) :
    stage.IgnoresWalk := by
  cases h with
  | here | anywhere => exact ⟨trivial, trivial⟩
  | filters _ ht => exact ht.ignoresWalk hr hb

theorem Segments.ignoresWalk (h : Segments registry Block next relation t stages) :
    Stage.AllIgnoreWalk stages := by
  induction h with
  | last ht => exact ⟨ht.ignoresWalk hr hb, trivial⟩
  | more ht _ _ ih => exact ⟨ht.ignoresWalk hr hb, ih⟩

theorem SelectorOver.ignoresWalk (h : SelectorOver registry Block next t stages) :
    Stage.AllIgnoreWalk stages := by
  obtain ⟨_, _, ht, _⟩ := h
  exact ht.ignoresWalk hr hb

end

theorem IsSelector.ignoresWalk (hr : registry.IgnoresWalk) {levels : Nat}
    (h : IsSelector registry levels next t stages) : Stage.AllIgnoreWalk stages := by
  induction levels generalizing next t stages with
  | zero => exact SelectorOver.ignoresWalk hr (fun _ _ h => h.elim) h
  | succ levels ih => exact SelectorOver.ignoresWalk hr (fun _ _ => ih) h

end Grammar

/-- A registry whose functions do not look at the order or the limit of a search compiles selectors
to patterns that do not either. -/
theorem Registry.ignoresWalk_of_compile {registry : Registry} (hr : registry.IgnoresWalk)
    {text : String} {p : Pattern} (h : registry.compile text = .ok p) : p.IgnoresWalk :=
  (isSelector_of_compile h).2.2.ignoresWalk hr

namespace Registry

variable {registry : Registry}

theorem ignoresWalk_empty : empty.IgnoresWalk := nofun

theorem IgnoresWalk.register (hr : registry.IgnoresWalk) {name : String} {maker : Maker}
    (hm : maker.IgnoresWalk) : (registry.register name maker).IgnoresWalk := forall_register hr hm

theorem IgnoresWalk.registerPredicate (hr : registry.IgnoresWalk) {name : String}
    {accepts : Predicate}
    (ha : ∀ g strategy limit origin node, accepts ⟨⟨g, strategy, limit⟩, origin⟩ node =
      accepts ⟨⟨g, .breadthFirst, none⟩, origin⟩ node) :
    (registry.registerPredicate name accepts).IgnoresWalk := by
  refine hr.register fun label args accepts' h => ?_
  cases hnone : args.expectNone name with
  | error e => rw [hnone] at h; cases h
  | ok u =>
    rw [hnone] at h
    cases h
    exact ha

end Registry

namespace Builtin

theorem ignoresWalk_of_bind {α : Type} {read : Args → Except Error α} {accepts : α → Predicate}
    (h : ∀ a g strategy limit origin node, accepts a ⟨⟨g, strategy, limit⟩, origin⟩ node =
      accepts a ⟨⟨g, .breadthFirst, none⟩, origin⟩ node) :
    Maker.IgnoresWalk fun args => read args >>= fun a => pure (accepts a) := by
  intro name args made hmade
  cases hread : read args with
  | error e =>
    dsimp only at hmade
    rw [hread] at hmade
    cases hmade
  | ok a =>
    dsimp only at hmade
    rw [hread] at hmade
    cases hmade
    exact h a

theorem ignoresWalk_registry : registry.IgnoresWalk := by
  have hattribute : ∀ key, (attributeMatches key).IgnoresWalk :=
    fun key => ignoresWalk_of_bind fun _ _ _ _ _ _ => rfl
  have hnamespace : ∀ function, (namespaceMatches function).IgnoresWalk :=
    fun function => ignoresWalk_of_bind fun _ _ _ _ _ _ => rfl
  have hdepth : depthEquals.IgnoresWalk := ignoresWalk_of_bind fun _ _ _ _ _ _ => rfl
  have hchild : hasChildNamed.IgnoresWalk := ignoresWalk_of_bind fun _ _ _ _ _ _ => rfl
  exact Registry.ignoresWalk_empty
    |>.register (hattribute "type")
    |>.register (hattribute "value")
    |>.register (hnamespace "namespace")
    |>.register (hnamespace "ns")
    |>.register hdepth
    |>.register hchild
    |>.registerPredicate (fun _ _ _ _ _ => rfl)
    |>.registerPredicate (fun _ _ _ _ _ => rfl)
    |>.registerPredicate (fun _ _ _ _ _ => rfl)
    |>.registerPredicate (fun _ _ _ _ _ => rfl)
    |>.registerPredicate (fun _ _ _ _ _ => rfl)
    |>.registerPredicate (fun _ _ _ _ _ => rfl)

/-- No pattern of built-in functions looks at the order or the limit of a search. -/
theorem ignoresWalk_of_compile {text : String} {p : Pattern} (h : registry.compile text = .ok p) :
    p.IgnoresWalk := Registry.ignoresWalk_of_compile ignoresWalk_registry h

end Builtin

end GraphSelect
