import GraphSelect.Proofs.Selector.Meaning

/-!
# Searches that visit more

Searches of one graph differ in their walks alone. Where every walk of one search visits what the
walk of another visits, every stage has the candidates of the other and more of them, and so has
every selector in a block, of which it is only asked whether it finds something. So no match is
lost. Without a limit the walks of both orders visit the same nodes; the searches then find the
same nodes, each of them once, and differ in nothing but the order in which they come.
-/
namespace GraphSelect

variable {g : Graph} {strategy other : Strategy} {limit larger : Option Nat} {n : NodeId}

/-- Whether every walk of a search visits what the walk of another search visits. -/
def Search.Within (s wider : Search) : Prop :=
  ∀ origin, (s.strategy.walk s.graph s.limit origin).order ⊆
    (wider.strategy.walk wider.graph wider.limit origin).order

theorem Search.Within.mem_reach (h : Search.Within ⟨g, strategy, limit⟩ ⟨g, other, larger⟩)
    {source : NodeId} {relation : Relation}
    (hn : n ∈ Search.reach ⟨g, strategy, limit⟩ source relation) :
    n ∈ Search.reach ⟨g, other, larger⟩ source relation := by
  cases relation with
  | immediate | current => exact hn
  | descendant =>
    obtain ⟨hvisit, hne⟩ := List.mem_filter.1 hn
    exact List.mem_filter.2 ⟨h source hvisit, hne⟩
  | wildcard => exact h source hn

mutual

theorem Search.Within.accepts (h : Search.Within ⟨g, strategy, limit⟩ ⟨g, other, larger⟩)
    {origin node : NodeId} :
    ∀ f : Filter, f.IgnoresWalk → f.accepts ⟨g, strategy, limit⟩ origin node →
      f.accepts ⟨g, other, larger⟩ origin node
  | .any, _, _ => by rw [Filter.accepts]
  | .name _, _, ha | .hasAttribute .., _, ha | .index _, _, ha | .adjacent, _, ha
  | .origin, _, ha => by
    rw [Filter.accepts] at ha ⊢
    exact ha
  | .function _ _ accepts, hf, ha => by
    rw [Filter.accepts, hf g strategy] at ha
    rw [Filter.accepts, hf g other]
    exact ha
  | .has ⟨_, stages⟩, hf, ha => by
    rw [Filter.accepts, Bool.and_eq_true, Bool.not_eq_true',
      List.isEmpty_eq_false_iff_exists_mem] at ha ⊢
    obtain ⟨hnode, n, hn⟩ := ha
    exact ⟨hnode, n, h.mem_run stages hf (fun _ hm => hm) hn⟩

theorem Search.Within.allAccept (h : Search.Within ⟨g, strategy, limit⟩ ⟨g, other, larger⟩)
    {origin node : NodeId} :
    ∀ filters : List Filter, Filter.AllIgnoreWalk filters →
      Filter.allAccept ⟨g, strategy, limit⟩ origin node filters →
      Filter.allAccept ⟨g, other, larger⟩ origin node filters
  | [], _, _ => by rw [Filter.allAccept]
  | f :: rest, hf, ha => by
    rw [Filter.allAccept, Bool.and_eq_true] at ha ⊢
    exact ⟨h.accepts f hf.1 ha.1, h.allAccept rest hf.2 ha.2⟩

theorem Search.Within.mem_select (h : Search.Within ⟨g, strategy, limit⟩ ⟨g, other, larger⟩)
    {source n : NodeId} :
    ∀ stage : Stage, stage.IgnoresWalk → n ∈ stage.select ⟨g, strategy, limit⟩ source →
      n ∈ stage.select ⟨g, other, larger⟩ source
  | ⟨_, filters⟩, hf, hn => by
    rw [Stage.select, List.mem_filter] at hn ⊢
    exact ⟨h.mem_reach hn.1, h.allAccept filters hf hn.2⟩

theorem Search.Within.mem_run (h : Search.Within ⟨g, strategy, limit⟩ ⟨g, other, larger⟩)
    {n : NodeId} :
    ∀ stages : List Stage, Stage.AllIgnoreWalk stages →
      ∀ {found more : List NodeId}, (∀ m ∈ found, m ∈ more) →
        n ∈ Search.run ⟨g, strategy, limit⟩ stages found →
        n ∈ Search.run ⟨g, other, larger⟩ stages more
  | [], _, _, _, hmore, hn => by
    rw [Search.run] at hn ⊢
    exact hmore n hn
  | stage :: rest, hf, found, more, hmore, hn => by
    rw [Search.run] at hn ⊢
    refine h.mem_run rest hf.2 (fun k hk => ?_) hn
    obtain ⟨m, hm, hk⟩ := List.mem_flatMap.1 (List.mem_eraseDups.1 hk)
    have hselect := h.mem_select stage hf.1 hk
    exact List.mem_eraseDups.2 (List.mem_flatMap.2 ⟨m, hmore m hm, hselect⟩)

end

namespace Search

theorem mem_find_iff (s : Search) (p : Pattern) {origin : NodeId} :
    n ∈ s.find p origin ↔ (s.graph.get? origin).isSome ∧ n ∈ s.run p.stages [origin] := by
  unfold find
  split <;> simp_all

theorem nodup_find (s : Search) (p : Pattern) (origin : NodeId) : (s.find p origin).Nodup := by
  unfold find
  split
  · exact nodup_run s (List.nodup_singleton origin)
  · exact List.nodup_nil

theorem Within.mem_find (h : Within ⟨g, strategy, limit⟩ ⟨g, other, larger⟩) {p : Pattern}
    (hp : p.IgnoresWalk) {origin : NodeId} (hn : n ∈ find ⟨g, strategy, limit⟩ p origin) :
    n ∈ find ⟨g, other, larger⟩ p origin := by
  rw [mem_find_iff] at hn ⊢
  exact ⟨hn.1, h.mem_run p.stages hp (fun _ hm => hm) hn.2⟩

theorem within_of_no_limit (g : Graph) (strategy other : Strategy) :
    Within ⟨g, strategy, none⟩ ⟨g, other, none⟩ :=
  fun _ _ hn => other.mem_walk_iff.2 (strategy.mem_walk_iff.1 hn)

/-- Without a limit both orders of exploration find the same nodes. -/
theorem perm_find {p : Pattern} (hp : p.IgnoresWalk) (g : Graph) (strategy other : Strategy)
    (origin : NodeId) :
    (find ⟨g, strategy, none⟩ p origin).Perm (find ⟨g, other, none⟩ p origin) := by
  rw [List.perm_ext_iff_of_nodup (nodup_find _ p origin) (nodup_find _ p origin)]
  intro n
  exact ⟨(within_of_no_limit g strategy other).mem_find hp,
    (within_of_no_limit g other strategy).mem_find hp⟩

end Search

end GraphSelect
