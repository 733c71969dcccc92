import GraphSelect.Proofs.Document.Attributes
import GraphSelect.Proofs.Graph.Labels
import GraphSelect.Proofs.Traversal.Coverage

/-!
# Reading a tree back

A tree in a graph is read back from its root along the links, which lead from a node to its
children. A graph holds the tree of an outline when the nodes of the outline, numbered from the
root down with each node before the nodes below it, have their labels and their children; then
reading gives the outline back, and a depth-first walk enters the nodes in the order of their
numbers.
-/
namespace GraphSelect

/-- A tree as it stands in a graph: every node has its number, its label and its depth. -/
inductive NodeTree
  | node (id : NodeId) (label : Label) (depth : Option Nat) (children : List NodeTree)
  deriving Repr

namespace NodeTree

mutual

/-- The numbers of the nodes of a tree, that of a node before those of the nodes below it. -/
def ids : NodeTree → List NodeId
  | .node id _ _ children => id :: idsAll children

def idsAll : List NodeTree → List NodeId
  | [] => []
  | t :: rest => t.ids ++ idsAll rest

end

end NodeTree

/-- The tree under a node, if it has no more than `height` nodes above each other. -/
def Graph.tree? (g : Graph) : (height : Nat) → NodeId → Option NodeTree
  | 0, _ => none
  | height + 1, id => do
    let n ← g.get? id
    return .node id n.label n.depth (← n.neighbors.mapM (g.tree? height))

namespace TreeOutline

mutual

def size : TreeOutline → Nat
  | .node _ _ children _ => sizeAll children + 1

def sizeAll : List TreeOutline → Nat
  | [] => 0
  | t :: rest => t.size + sizeAll rest

end

theorem size_pos : ∀ t : TreeOutline, 0 < t.size
  | .node _ _ _ _ => Nat.succ_pos _

/-- The roots of trees in a row whose nodes are numbered from `id` on. -/
def rootsFrom (id : Nat) : List TreeOutline → List NodeId
  | [] => []
  | t :: rest => id :: rootsFrom (id + t.size) rest

/-- A node is labelled as an outline says, `binary` if it is to be a binary one. It has the attributes
of the outline and no others; the last of several values of an attribute counts. -/
structure Labelled (l : Label) (binary : Bool) (name : String)
    (attributes : List (String × Scalar)) : Prop where
  name : l.name = name
  kind : l.kind = if binary then .binary else .tree
  attributes : ∀ key, l.attributes.get? key = (attributes.reverse.lookup key).map Scalar.render

mutual

/-- A tree in a graph shows an outline, below binary nodes or not, with its root at a depth and its
nodes numbered from `id` on. -/
def Shown (above : Bool) (depth id : Nat) : TreeOutline → NodeTree → Prop
  | .node name attributes children binary, .node number label height below =>
    number = id ∧ Labelled label (above || binary) name attributes ∧ height = some depth ∧
      ShownAll (above || binary) (depth + 1) (id + 1) children below

def ShownAll (above : Bool) (depth id : Nat) : List TreeOutline → List NodeTree → Prop
  | [], [] => True
  | t :: rest, r :: others =>
    t.Shown above depth id r ∧ ShownAll above depth (id + t.size) rest others
  | _, _ => False

end

mutual

theorem Shown.ids_eq : ∀ {t : TreeOutline} {r : NodeTree} {above : Bool} {depth id : Nat},
    t.Shown above depth id r → r.ids = List.range' id t.size
  | .node _ _ _ _, .node _ _ _ _, _, _, _, ⟨hnumber, _, _, hbelow⟩ => by
    rw [NodeTree.ids, hnumber, hbelow.ids_eq, size, List.range'_succ]

theorem ShownAll.ids_eq : ∀ {children : List TreeOutline} {below : List NodeTree} {above : Bool}
    {depth id : Nat}, ShownAll above depth id children below →
      NodeTree.idsAll below = List.range' id (sizeAll children)
  | [], [], _, _, _, _ => rfl
  | t :: rest, r :: others, _, _, _, ⟨ht, hrest⟩ => by
    rw [NodeTree.idsAll, ht.ids_eq, hrest.ids_eq, List.range'_append_1, sizeAll]

end

mutual

def Holds (g : Graph) (above : Bool) (id : Nat) : TreeOutline → Prop
  | .node name attributes children binary =>
    (∃ l, g.label? id = some l ∧ Labelled l (above || binary) name attributes) ∧
      g.neighbors id = rootsFrom (id + 1) children ∧
      HoldsAll g (above || binary) (id + 1) children

def HoldsAll (g : Graph) (above : Bool) (id : Nat) : List TreeOutline → Prop
  | [] => True
  | t :: rest => t.Holds g above id ∧ HoldsAll g above (id + t.size) rest

end

variable {g h : Graph}

theorem Holds.isTree {above : Bool} {id : Nat} :
    ∀ {t : TreeOutline}, t.Holds g above id → g.isTree id
  | .node _ _ _ binary, ⟨⟨_, hl, hlabel⟩, _, _⟩ => by
    refine Graph.isTree_of_label? hl ?_
    rw [hlabel.kind]
    cases above || binary <;> rfl

mutual

theorem Holds.congr : ∀ {t : TreeOutline} {above : Bool} {id : Nat},
    (∀ n : Nat, id ≤ n → n < id + t.size → h.label? n = g.label? n ∧ h.neighbors n = g.neighbors n) →
      t.Holds g above id → t.Holds h above id
  | .node _ _ children _, _, id, hsame, ⟨⟨l, hl, hlabel⟩, hneighbors, hbelow⟩ => by
    obtain ⟨el, en⟩ := hsame id (Nat.le_refl id) (by rw [size]; omega)
    refine ⟨⟨l, el.trans hl, hlabel⟩, en.trans hneighbors,
      HoldsAll.congr (fun n hle hlt => ?_) hbelow⟩
    exact hsame n (by omega) (by rw [size]; omega)

theorem HoldsAll.congr : ∀ {children : List TreeOutline} {above : Bool} {id : Nat},
    (∀ n : Nat, id ≤ n → n < id + sizeAll children →
      h.label? n = g.label? n ∧ h.neighbors n = g.neighbors n) →
      HoldsAll g above id children → HoldsAll h above id children
  | [], _, _, _, _ => trivial
  | t :: rest, _, id, hsame, ⟨ht, hrest⟩ => by
    refine ⟨Holds.congr (fun n hle hlt => ?_) ht, HoldsAll.congr (fun n hle hlt => ?_) hrest⟩
    · exact hsame n hle (by rw [sizeAll]; omega)
    · exact hsame n (by omega) (by rw [sizeAll]; omega)

end

mutual

theorem tree?_of_holds (hg : g.Forest) :
    ∀ {t : TreeOutline} {above : Bool} {depth height id : Nat},
      t.Holds g above id → g.level id = depth → t.size ≤ height →
      ∃ r, g.tree? height id = some r ∧ t.Shown above depth id r
  | .node name attributes children binary, above, depth, height, id, hold, hlevel, hheight => by
    have htree := hold.isTree
    obtain ⟨⟨l, hl, hlabel⟩, hneighbors, hbelow⟩ := hold
    obtain ⟨k, rfl⟩ : ∃ k, height = k + 1 := ⟨height - 1, by rw [size] at hheight; omega⟩
    obtain ⟨n, hn, rfl⟩ := Option.map_eq_some_iff.1 hl
    have hdepth : n.depth = some depth := by
      have hd := Graph.depth_eq g id
      rw [if_pos htree, hlevel, Graph.depth, hn, Option.bind_some] at hd
      exact hd
    have hchildren : ∀ c ∈ rootsFrom (id + 1) children, g.level c = depth + 1 := by
      intro c hc
      rw [hg.level_child (hg.parent_of_mem htree (hneighbors ▸ hc)), hlevel]
    have hroom : sizeAll children ≤ k := by
      rw [size] at hheight
      omega
    obtain ⟨below, hread, hshown⟩ := mapM_tree?_of_holds hg hbelow hchildren hroom
    rw [Graph.neighbors_eq hn] at hneighbors
    refine ⟨.node id n.label n.depth below, ?_, rfl, hlabel, hdepth, hshown⟩
    rw [Graph.tree?, hn]
    simp only [Option.bind_eq_bind, Option.bind_some, hneighbors, hread]
    rfl

theorem mapM_tree?_of_holds (hg : g.Forest) : ∀ {children : List TreeOutline} {above : Bool}
    {depth height id : Nat}, HoldsAll g above id children →
      (∀ c ∈ rootsFrom id children, g.level c = depth) → sizeAll children ≤ height →
      ∃ below, (rootsFrom id children).mapM (g.tree? height) = some below ∧
        ShownAll above depth id children below
  | [], _, _, _, _, _, _, _ => ⟨[], rfl, trivial⟩
  | t :: rest, above, depth, height, id, ⟨ht, hrest⟩, hlevel, hheight => by
    rw [sizeAll] at hheight
    have hroom : t.size ≤ height ∧ sizeAll rest ≤ height := by omega
    obtain ⟨r, hfirst, hr⟩ := tree?_of_holds hg ht (hlevel id List.mem_cons_self) hroom.1
    obtain ⟨others, hothers, hshown⟩ := mapM_tree?_of_holds hg hrest
      (fun c hc => hlevel c (List.mem_cons_of_mem id hc)) hroom.2
    refine ⟨r :: others, ?_, hr, hshown⟩
    rw [rootsFrom, List.mapM_cons, hfirst, hothers]
    rfl

end

open DepthFirst

/-- Among the numbers that the walk looks at, it passes over those below `k`. -/
theorem find?_not_below {k : Nat} {before : List NodeId} (hbefore : ∀ n ∈ before, n < k)
    (after : List NodeId) :
    (before ++ after).find? (!(List.range k).reverse.contains ·) =
      after.find? (!(List.range k).reverse.contains ·) := by
  have hnone : before.find? (!(List.range k).reverse.contains ·) = none := by
    rw [List.find?_eq_none]
    intro n hn
    simpa using hbefore n hn
  rw [List.find?_append, hnone, Option.none_or]

mutual

/-- The walk enters the nodes of a tree one number after the other and comes back. -/
theorem follow_of_holds : ∀ {t : TreeOutline} {above : Bool} {id : Nat} (path : List NodeId)
    (edges : Nat), t.Holds g above id →
      ∃ edges', follow g none (List.range (id + 1)).reverse (id :: path) edges =
        follow g none (List.range (id + t.size)).reverse path edges'
  | .node _ _ children _, _, id, path, edges, ⟨_, hneighbors, hbelow⟩ => by
    rw [size, ← Nat.add_assoc, Nat.add_right_comm]
    exact follow_of_holdsAll path edges [] hbelow (List.forall_mem_nil _) hneighbors

/-- At a node whose first children have been entered, the walk goes on to the others. -/
theorem follow_of_holdsAll : ∀ {children : List TreeOutline} {above : Bool} {id : Nat}
    {top : NodeId} (path : List NodeId) (edges : Nat) (before : List NodeId),
      HoldsAll g above id children → (∀ n ∈ before, n < id) →
      g.neighbors top = before ++ rootsFrom id children →
      ∃ edges', follow g none (List.range id).reverse (top :: path) edges =
        follow g none (List.range (id + sizeAll children)).reverse path edges'
  | [], _, id, top, path, edges, before, _, hbefore, hneighbors => by
    have hnext : (g.neighbors top).find? (!(List.range id).reverse.contains ·) = none := by
      rw [hneighbors, find?_not_below hbefore]
      rfl
    refine ⟨edges + (g.neighbors top).length, ?_⟩
    rw [follow, hnext]
    rfl
  | t :: rest, _, id, top, path, edges, before, ⟨ht, hrest⟩, hbefore, hneighbors => by
    have hnext : (g.neighbors top).find? (!(List.range id).reverse.contains ·) = some id := by
      rw [hneighbors, find?_not_below hbefore, rootsFrom, List.find?_cons_of_pos]
      simp
    have henter : id :: (List.range id).reverse = (List.range (id + 1)).reverse := by
      rw [List.range_succ, List.reverse_append]
      rfl
    have hdone : ∀ n ∈ before ++ [id], n < id + t.size := by
      intro n hn
      rcases List.mem_append.1 hn with hn | hn
      · exact Nat.lt_add_right _ (hbefore n hn)
      · rw [List.mem_singleton.1 hn]
        exact Nat.lt_add_of_pos_right t.size_pos
    have hothers : g.neighbors top = (before ++ [id]) ++ rootsFrom (id + t.size) rest := by
      rw [hneighbors, rootsFrom, List.append_assoc]
      rfl
    obtain ⟨edges₁, h₁⟩ :=
      follow_of_holds (top :: path) (edges + (g.neighbors top).idxOf id + 1) ht
    obtain ⟨edges₂, h₂⟩ := follow_of_holdsAll path edges₁ (before ++ [id]) hrest hdone hothers
    refine ⟨edges₂, ?_⟩
    rw [follow, hnext]
    simp only [limitReached, Option.any_none, Bool.false_eq_true, if_false, henter]
    rw [h₁, h₂, sizeAll, Nat.add_assoc]

end

/-- From the root of a tree that begins with the graph, the depth-first walk visits the nodes of the
tree in the order of their numbers. -/
theorem Holds.order_walk {t : TreeOutline} {above : Bool} (hold : t.Holds g above 0) :
    (walk g none 0).order = List.range t.size := by
  obtain ⟨edges, h⟩ := follow_of_holds [] 0 hold
  rw [Nat.zero_add, Nat.zero_add] at h
  change (follow g none (List.range 1).reverse [0] 0).order = _
  rw [h, follow, List.reverse_reverse]

theorem Holds.exists_parent (hg : g.Forest) {t : TreeOutline} {above : Bool}
    (hold : t.Holds g above 0) {n : NodeId} (hn : n < t.size) (hne : n ≠ 0) :
    ∃ p, g.parent n = some p := by
  have hvisited : n ∈ (walk g none 0).order := by
    rw [hold.order_walk]
    exact List.mem_range.2 hn
  rcases Relation.ReflTransGen.cases_tail (reaches_of_mem_walk hvisited) with e | ⟨p, hp, hlink⟩
  · exact absurd e hne
  · exact ⟨p, hg.parent_of_mem (hg.isTree_of_reaches hold.isTree hp) hlink⟩

end TreeOutline

end GraphSelect
