import GraphSelect.Proofs.Selector.Wider
import GraphSelect.Proofs.Traversal.Limit

/-!
# Searches under a limit

Every walk of a search is made under the same limit, also the walks of the selectors in its blocks.
Under a larger limit every walk visits more, so no match is lost, though the matches may come in
another order.
-/
namespace GraphSelect

variable {g : Graph} {strategy : Strategy} {limit larger : Option Nat} {n : NodeId}

namespace Search

theorem within_of_limitLe (h : LimitLe limit larger) (g : Graph) (strategy : Strategy) :
    Within ⟨g, strategy, limit⟩ ⟨g, strategy, larger⟩ :=
  fun origin => (strategy.prefix_walk h g origin).subset

theorem mem_run_of_limitLe (h : LimitLe limit larger) (stages : List Stage)
    (hp : Stage.AllIgnoreWalk stages) {found more : List NodeId} (hmore : ∀ m ∈ found, m ∈ more)
    (hn : n ∈ run ⟨g, strategy, limit⟩ stages found) :
    n ∈ run ⟨g, strategy, larger⟩ stages more :=
  (within_of_limitLe h g strategy).mem_run stages hp hmore hn

theorem isSome_findFirst?_iff (s : Search) (p : Pattern) {origin : NodeId} :
    (s.findFirst? p origin).isSome ↔ ∃ n, n ∈ s.find p origin := by
  rw [findFirst?, List.isSome_head?, ← List.isEmpty_eq_false_iff,
    List.isEmpty_eq_false_iff_exists_mem]

/-- What a pattern finds under a limit it also finds under a larger one, and so there is a first
match under the larger limit where there is one under the smaller. -/
theorem mem_find_of_limitLe (h : LimitLe limit larger) {p : Pattern} (hp : p.IgnoresWalk)
    (g : Graph) (strategy : Strategy) (origin : NodeId) :
    (∀ n ∈ find ⟨g, strategy, limit⟩ p origin, n ∈ find ⟨g, strategy, larger⟩ p origin) ∧
      ((findFirst? ⟨g, strategy, limit⟩ p origin).isSome →
        (findFirst? ⟨g, strategy, larger⟩ p origin).isSome) := by
  have hfind : ∀ n ∈ find ⟨g, strategy, limit⟩ p origin,
      n ∈ find ⟨g, strategy, larger⟩ p origin := by
    intro n hn
    rw [mem_find_iff] at hn ⊢
    exact ⟨hn.1, mem_run_of_limitLe h p.stages hp (fun _ hm => hm) hn.2⟩
  refine ⟨hfind, fun hfirst => ?_⟩
  rw [isSome_findFirst?_iff] at hfirst ⊢
  obtain ⟨n, hn⟩ := hfirst
  exact ⟨n, hfind n hn⟩

private def line : Graph :=
  .build [.add "a" .plain, .add "b" .plain, .add "c" .plain, .add "d" .plain,
    .connect 0 1, .connect 1 2, .connect 2 3]

private def isLeaf : Predicate := fun c n => c.graph.isLeaf n

private def aboveLeaf : Pattern :=
  ⟨"", [⟨.descendant, [.has ⟨"", [⟨.descendant, [.function "" {} isLeaf]⟩]⟩]⟩]⟩

/-- Under a limit of three the leaf is still visited from the third node of the line, which is
therefore found; so it is found without a limit. -/
theorem mem_find_line : LimitLe (some 3) none ∧ aboveLeaf.IgnoresWalk ∧
    2 ∈ find ⟨line, .breadthFirst, none⟩ aboveLeaf 0 ∧
    (findFirst? ⟨line, .breadthFirst, none⟩ aboveLeaf 0).isSome := by
  have hlimit : LimitLe (some 3) none := by decide
  have hp : aboveLeaf.IgnoresWalk :=
    ⟨⟨⟨⟨fun _ _ _ _ _ => rfl, trivial⟩, trivial⟩, trivial⟩, trivial⟩
  have hfind : find ⟨line, .breadthFirst, some 3⟩ aboveLeaf 0 = [1, 2] := by cbv
  obtain ⟨hmem, hfirst⟩ := mem_find_of_limitLe hlimit hp line .breadthFirst 0
  refine ⟨hlimit, hp, hmem 2 (by simp [hfind]), hfirst ?_⟩
  rw [findFirst?, hfind]
  rfl

end Search

end GraphSelect
