import GraphSelect.Proofs.Selector.Evaluation

/-!
# The meaning of a query

A pattern means a relation between nodes: a chain of nodes from the first to the second, one link
of the chain for each stage. A link is a way through the graph of the kind that the stage asks
for, to a node that meets all filters of the stage; a filter that holds a pattern is met where
some chain of that pattern starts. The search finds from a node exactly the ends of the chains that
start there, whatever the order in which it explores.
-/
namespace GraphSelect

variable {g : Graph} {strategy : Strategy} {origin source target n : NodeId}

def Relation.Holds (g : Graph) (source target : NodeId) : Relation → Prop
  | .immediate => g.Leads source target
  | .descendant => g.Reaches source target ∧ target ≠ source
  | .wildcard => g.Reaches source target
  | .current => target = source

mutual

/-- Whether a node that was reached from `origin` meets a filter. A filter function is asked in the
breadth-first search without a limit. -/
def Filter.Holds (g : Graph) (origin node : NodeId) : Filter → Prop
  | .any => True
  | .name pattern => ∃ name, g.name node = some name ∧ pattern.isMatch name
  | .hasAttribute key value => ∃ n, g.get? node = some n ∧ ∃ p ∈ n.attributes.entries,
      key.isMatch p.1 ∧ ∀ pattern, value = some pattern → pattern.isMatch p.2
  | .index place => g.index node = some place
  | .adjacent => g.Leads origin node
  | .origin => node = origin
  | .function _ _ accepts => accepts ⟨⟨g, .breadthFirst, none⟩, origin⟩ node
  | .has ⟨_, stages⟩ => ∃ n, Stage.Chain g stages node n

def Filter.AllHold (g : Graph) (origin node : NodeId) : List Filter → Prop
  | [] => True
  | f :: rest => f.Holds g origin node ∧ Filter.AllHold g origin node rest

def Stage.Leads (g : Graph) (source target : NodeId) : Stage → Prop
  | ⟨relation, filters⟩ => relation.Holds g source target ∧ Filter.AllHold g source target filters

/-- Whether a chain of nodes, one stage after the other, leads from one node to another. -/
def Stage.Chain (g : Graph) : List Stage → NodeId → NodeId → Prop
  | [], source, target => target = source
  | stage :: rest, source, target => ∃ n, stage.Leads g source n ∧ Stage.Chain g rest n target

end

mutual

def Filter.IgnoresWalk : Filter → Prop
  | .function _ _ accepts => ∀ g strategy limit origin node,
      accepts ⟨⟨g, strategy, limit⟩, origin⟩ node =
        accepts ⟨⟨g, .breadthFirst, none⟩, origin⟩ node
  | .has ⟨_, stages⟩ => Stage.AllIgnoreWalk stages
  | .any | .name _ | .hasAttribute .. | .index _ | .adjacent | .origin => True

def Filter.AllIgnoreWalk : List Filter → Prop
  | [] => True
  | f :: rest => f.IgnoresWalk ∧ Filter.AllIgnoreWalk rest

def Stage.IgnoresWalk : Stage → Prop
  | ⟨_, filters⟩ => Filter.AllIgnoreWalk filters

def Stage.AllIgnoreWalk : List Stage → Prop
  | [] => True
  | stage :: rest => stage.IgnoresWalk ∧ Stage.AllIgnoreWalk rest

end

/-- Whether no filter function of a pattern looks at the order or the limit of a search. -/
def Pattern.IgnoresWalk (p : Pattern) : Prop := Stage.AllIgnoreWalk p.stages

theorem Search.mem_reach_iff (relation : Relation) :
    target ∈ Search.reach ⟨g, strategy, none⟩ source relation ↔ relation.Holds g source target := by
  cases relation with
  | immediate => exact Iff.rfl
  | descendant => simp [Search.reach, Relation.Holds, Strategy.mem_walk_iff]
  | wildcard => exact strategy.mem_walk_iff
  | current => exact List.mem_singleton

theorem Relation.Holds.lt_size (hg : g.Linked) {relation : Relation}
    (h : relation.Holds g source target) (hs : source < g.size) : target < g.size := by
  cases relation with
  | immediate => exact hg.neighbor_lt h
  | descendant => exact hg.lt_size_of_reaches h.1 hs
  | wildcard => exact hg.lt_size_of_reaches h hs
  | current => exact (h : target = source) ▸ hs

theorem Stage.Leads.lt_size (hg : g.Linked) {stage : Stage} (h : stage.Leads g source target)
    (hs : source < g.size) : target < g.size := by
  obtain ⟨relation, filters⟩ := stage
  exact Relation.Holds.lt_size hg h.1 hs

theorem Stage.Chain.lt_size (hg : g.Linked) {stages : List Stage}
    (h : Stage.Chain g stages source target) (hs : source < g.size) : target < g.size := by
  induction stages generalizing source with
  | nil => exact (h : target = source) ▸ hs
  | cons stage rest ih =>
    obtain ⟨n, hlead, hchain⟩ := h
    exact ih hchain (hlead.lt_size hg hs)

mutual

theorem Filter.accepts_iff (hg : g.Linked) {origin node : NodeId} (hn : node < g.size) :
    ∀ f : Filter, f.IgnoresWalk →
      (f.accepts ⟨g, strategy, none⟩ origin node ↔ f.Holds g origin node)
  | .any, _ => by simp [Filter.accepts, Filter.Holds]
  | .name pattern, _ => by simp [Filter.accepts, Filter.Holds, Option.any_eq_true]
  | .hasAttribute key value, _ => by
    simp [Filter.accepts, Filter.Holds, Option.any_eq_true, Option.all_eq_true]
  | .index place, _ => by simp [Filter.accepts, Filter.Holds]
  | .adjacent, _ => by simp [Filter.accepts, Filter.Holds, Graph.Leads]
  | .origin, _ => by simp [Filter.accepts, Filter.Holds]
  | .function _ _ accepts, h => by rw [Filter.accepts, Filter.Holds, h]
  | .has ⟨_, stages⟩, h => by
    obtain ⟨m, hm⟩ := Graph.lt_size_iff.1 hn
    have hrun : ∀ n, n ∈ Search.run ⟨g, strategy, none⟩ stages [node] ↔
        Stage.Chain g stages node n := by
      intro n
      rw [Search.mem_run_iff hg stages h fun m hm => List.mem_singleton.1 hm ▸ hn]
      simp
    rw [Filter.accepts, Filter.Holds]
    simp only [hm, Option.isSome_some, Bool.true_and, Bool.not_eq_true',
      List.isEmpty_eq_false_iff_exists_mem, hrun]

theorem Filter.allAccept_iff (hg : g.Linked) {origin node : NodeId} (hn : node < g.size) :
    ∀ filters : List Filter, Filter.AllIgnoreWalk filters →
      (Filter.allAccept ⟨g, strategy, none⟩ origin node filters ↔
        Filter.AllHold g origin node filters)
  | [], _ => by simp [Filter.allAccept, Filter.AllHold]
  | f :: rest, h => by
    rw [Filter.allAccept, Filter.AllHold, Bool.and_eq_true, Filter.accepts_iff hg hn f h.1,
      Filter.allAccept_iff hg hn rest h.2]

theorem Stage.mem_select_iff (hg : g.Linked) {source target : NodeId} (hs : source < g.size) :
    ∀ stage : Stage, stage.IgnoresWalk →
      (target ∈ stage.select ⟨g, strategy, none⟩ source ↔ stage.Leads g source target)
  | ⟨relation, filters⟩, h => by
    rw [Stage.select, Stage.Leads, List.mem_filter, Search.mem_reach_iff]
    exact and_congr_right fun hr => Filter.allAccept_iff hg (hr.lt_size hg hs) filters h

theorem Search.mem_run_iff (hg : g.Linked) {n : NodeId} :
    ∀ stages : List Stage, Stage.AllIgnoreWalk stages →
      ∀ {found : List NodeId}, (∀ m ∈ found, m < g.size) →
        (n ∈ Search.run ⟨g, strategy, none⟩ stages found ↔ ∃ m ∈ found, Stage.Chain g stages m n)
  | [], _, found, _ => by simp [Search.run, Stage.Chain]
  | stage :: rest, h, found, hf => by
    have hselect : ∀ m ∈ found, ∀ k, k ∈ stage.select ⟨g, strategy, none⟩ m ↔ stage.Leads g m k :=
      fun m hm k => Stage.mem_select_iff hg (hf m hm) stage h.1
    rw [Search.run, Search.mem_run_iff hg rest h.2]
    · simp only [List.mem_eraseDups, List.mem_flatMap, Stage.Chain]
      constructor
      · rintro ⟨k, ⟨m, hm, hk⟩, hchain⟩
        exact ⟨m, hm, k, (hselect m hm k).1 hk, hchain⟩
      · rintro ⟨m, hm, k, hk, hchain⟩
        exact ⟨k, ⟨m, hm, (hselect m hm k).2 hk⟩, hchain⟩
    · intro k hk
      obtain ⟨m, hm, hk⟩ := List.mem_flatMap.1 (List.mem_eraseDups.1 hk)
      exact ((hselect m hm k).1 hk).lt_size hg (hf m hm)

end

namespace Search

/-- From a node of a built graph a search without a limit finds each end of a chain once and
nothing else, so both orders of exploration find the same nodes. -/
theorem mem_find_iff_chain (hg : g.Built) {p : Pattern} (hp : p.IgnoresWalk)
    (ho : origin < g.size) (strategy : Strategy) :
    (find ⟨g, strategy, none⟩ p origin).Nodup ∧
      (∀ n ∈ find ⟨g, strategy, none⟩ p origin, n < g.size) ∧
      (∀ n, n ∈ find ⟨g, strategy, none⟩ p origin ↔ Stage.Chain g p.stages origin n) ∧
      ∀ other n, n ∈ find ⟨g, other, none⟩ p origin ↔ n ∈ find ⟨g, strategy, none⟩ p origin := by
  have hlinked := hg.forest.toLinked
  have hchain : ∀ other n, n ∈ find ⟨g, other, none⟩ p origin ↔
      Stage.Chain g p.stages origin n := by
    intro other n
    rw [find_eq_run _ p ho, mem_run_iff hlinked p.stages hp fun m hm => List.mem_singleton.1 hm ▸ ho]
    simp
  refine ⟨?_, fun n hn => ?_, hchain strategy, fun other n => ?_⟩
  · rw [find_eq_run _ p ho]
    exact nodup_run _ (List.nodup_singleton origin)
  · exact Stage.Chain.lt_size hlinked ((hchain strategy n).1 hn) ho
  · rw [hchain, hchain]

/-- On a cycle of two nodes the other node is found below the first, for a node that it links to
links back to it. -/
theorem mem_find_cycle :
    let g := Graph.build [.add "a" .plain, .add "b" .plain, .connect 0 1, .connect 1 0]
    let linksBack : Predicate := fun c n => (c.graph.neighbors n).contains c.origin
    let p : Pattern := ⟨"", [⟨.descendant, [.has ⟨"", [⟨.immediate, [.function "" {} linksBack]⟩]⟩]⟩]⟩
    g.Built ∧ p.IgnoresWalk ∧ 0 < g.size ∧ 1 ∈ find ⟨g, .depthFirst, none⟩ p 0 := by
  intro g linksBack p
  have hg : g.Built := ⟨_, rfl⟩
  have hp : p.IgnoresWalk := ⟨⟨⟨⟨fun _ _ _ _ _ => rfl, trivial⟩, trivial⟩, trivial⟩, trivial⟩
  have ho : 0 < g.size := by decide
  refine ⟨hg, hp, ho, ((mem_find_iff_chain hg hp ho .depthFirst).2.2.1 1).2 ?_⟩
  have hthere : 1 ∈ g.neighbors 0 := by decide
  have hback : 0 ∈ g.neighbors 1 := by decide
  refine ⟨1, ⟨⟨.single hthere, by decide⟩, ⟨0, ?_⟩, trivial⟩, rfl⟩
  exact ⟨0, ⟨hback, (by decide : (g.neighbors 0).contains 1), trivial⟩, rfl⟩

end Search

end GraphSelect
