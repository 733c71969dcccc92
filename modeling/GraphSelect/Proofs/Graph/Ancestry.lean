import GraphSelect.Proofs.Graph.Built
import GraphSelect.Proofs.Traversal.Levels
import Mathlib.Logic.Relation

/-!
# Ancestors, depths and roots

Going from parent to parent has no guard against going on forever, and the depth of a node is stored
and never counted. In a forest the two agree: a node has as many ancestors as its depth says, the
last of them is a root, and the nodes of a tree are those that share it. All of this is proved along
the way down, for a root first and then for a child from what holds of its parent.
-/
namespace GraphSelect

/-- From a first node, and from each node on to the next one where there is a next one, exactly the
nodes of a list are met, and then there is none. -/
inductive Trail (next : NodeId → Option NodeId) : Option NodeId → List NodeId → Prop
  | done : Trail next none []
  | step {n : NodeId} {l : List NodeId} (h : Trail next (next n) l) : Trail next (some n) (n :: l)

theorem Trail.unique {next : NodeId → Option NodeId} {first : Option NodeId} {l l' : List NodeId}
    (h : Trail next first l) (h' : Trail next first l') : l = l' := by
  induction h generalizing l' with
  | done =>
    cases h'
    rfl
  | @step n l _ ih =>
    cases h' with
    | step h' => rw [ih h']

namespace Graph

variable {g : Graph} {id m n p r : NodeId} {k : Nat}

namespace Forest

variable (hg : g.Forest)

include hg

/-- What holds of all roots, and of a child when it holds of its parent, holds of all tree nodes. -/
theorem induction_down {motive : (id : NodeId) → g.isTree id → Prop}
    (root : ∀ id hid, g.parent id = none → motive id hid)
    (child : ∀ id p hid hpt, g.parent id = some p → motive p hpt → motive id hid)
    (id : NodeId) (hid : g.isTree id) : motive id hid := by
  induction hl : g.level id generalizing id with
  | zero =>
    refine root id hid (Option.eq_none_iff_forall_ne_some.2 fun p hp => ?_)
    have hlevel := hg.level_child hp
    omega
  | succ l ih =>
    cases hp : g.parent id with
    | none => exact root id hid hp
    | some p =>
      have hlevel := hg.level_child hp
      exact child id p hid (hg.isTree_parent hp) hp (ih p _ (by omega))

theorem trail_climb {steps : Nat} (hs : g.level id ≤ steps) :
    Trail g.parent (g.parent id) (g.climb steps id) := by
  induction steps generalizing id with
  | zero =>
    cases hp : g.parent id with
    | none => exact .done
    | some p =>
      have hlevel := hg.level_child hp
      omega
  | succ steps ih =>
    rw [climb]
    cases hp : g.parent id with
    | none => exact .done
    | some p =>
      have hlevel := hg.level_child hp
      exact .step (ih (by omega))

/-- The ancestors of a node are what is met on the way up, to its very end. -/
theorem trail_ancestors (id : NodeId) : Trail g.parent (g.parent id) (g.ancestors id) := by
  cases hp : g.parent id with
  | some p =>
    have hlt := hg.level_lt_size (hg.isTree_of_parent hp)
    exact hp ▸ hg.trail_climb (Nat.le_of_lt hlt)
  | none =>
    have hnil : g.ancestors id = [] := by
      unfold ancestors
      cases g.size with
      | zero => rfl
      | succ steps => rw [climb, hp]
    rw [hnil]
    exact .done

theorem ancestors_of_root (hp : g.parent id = none) : g.ancestors id = [] :=
  (hg.trail_ancestors id).unique (hp ▸ .done)

theorem ancestors_of_parent (hp : g.parent id = some p) : g.ancestors id = p :: g.ancestors p :=
  (hg.trail_ancestors id).unique (hp ▸ .step (hg.trail_ancestors p))

theorem nodup_climb (steps : Nat) (id : NodeId) : (g.climb steps id).Nodup := by
  induction steps generalizing id with
  | zero => exact List.nodup_nil
  | succ steps ih =>
    rw [climb]
    cases g.parent id with
    | none => exact List.nodup_nil
    | some p => exact List.nodup_cons.2 ⟨fun hp => hg.acyclic p (up_of_mem_climb hp), ih p⟩

/-- A node has as many ancestors as its depth says. -/
theorem depth_eq_length_ancestors (hid : g.isTree id) :
    g.depth id = some (g.ancestors id).length := by
  rw [depth_eq, if_pos hid]
  refine congrArg some ?_
  induction id, hid using hg.induction_down with
  | root id hid hp => rw [hg.level_root hid hp, hg.ancestors_of_root hp, List.length_nil]
  | child id p _ _ hp ih => rw [hg.level_child hp, hg.ancestors_of_parent hp, List.length_cons, ih]

theorem rootOf_of_root (hp : g.parent id = none) : g.rootOf id = id := by
  rw [rootOf, hg.ancestors_of_root hp]
  rfl

theorem rootOf_of_parent (hp : g.parent id = some p) : g.rootOf id = g.rootOf p := by
  rw [rootOf, hg.ancestors_of_parent hp, List.getLast?_cons, Option.getD_some, rootOf]

theorem isRoot_rootOf (hid : g.isTree id) : g.isRoot (g.rootOf id) := by
  induction id, hid using hg.induction_down with
  | root id hid hp =>
    rw [hg.rootOf_of_root hp]
    exact isRoot_iff.2 ⟨hid, hp⟩
  | child id p _ _ hp ih => rwa [hg.rootOf_of_parent hp]

theorem rootOf_eq_self_iff (hid : g.isTree id) : g.rootOf id = id ↔ g.parent id = none := by
  refine ⟨fun h => ?_, hg.rootOf_of_root⟩
  have hroot := hg.isRoot_rootOf hid
  rw [h] at hroot
  exact (isRoot_iff.1 hroot).2

/-- The links between children and parents connect every node with its root. -/
theorem connected_rootOf (hid : g.isTree id) : Relation.EqvGen g.Up id (g.rootOf id) := by
  induction id, hid using hg.induction_down with
  | root id hid hp =>
    rw [hg.rootOf_of_root hp]
    exact .refl id
  | child id p _ _ hp ih =>
    rw [hg.rootOf_of_parent hp]
    exact .trans _ _ _ (.rel _ _ hp) ih

theorem rootOf_eq_of_connected (h : Relation.EqvGen g.Up m n) : g.rootOf m = g.rootOf n := by
  induction h with
  | rel _ _ hp => exact hg.rootOf_of_parent hp
  | refl => rfl
  | symm _ _ _ ih => exact ih.symm
  | trans _ _ _ _ _ ih ih' => exact ih.trans ih'

theorem rootOf_eq_iff (hm : g.isTree m) (hn : g.isTree n) :
    g.rootOf m = g.rootOf n ↔ Relation.EqvGen g.Up m n := by
  refine ⟨fun h => ?_, hg.rootOf_eq_of_connected⟩
  have hup := hg.connected_rootOf hm
  rw [h] at hup
  exact .trans _ _ _ hup (.symm _ _ (hg.connected_rootOf hn))

theorem existsUnique_root (hid : g.isTree id) :
    ∃! r, g.isRoot r ∧ Relation.EqvGen g.Up id r := by
  refine ⟨g.rootOf id, ⟨hg.isRoot_rootOf hid, hg.connected_rootOf hid⟩, ?_⟩
  rintro r ⟨hr, hconnected⟩
  rw [hg.rootOf_eq_of_connected hconnected, hg.rootOf_of_root (isRoot_iff.1 hr).2]

/-- A way down along links is as long as the levels differ. -/
theorem level_of_way (hr : g.isTree r) (h : g.Way r k n) :
    g.isTree n ∧ g.level n = g.level r + k := by
  induction h with
  | here => exact ⟨hr, rfl⟩
  | @step k m n _ hlink ih =>
    have hp := hg.parent_of_mem ih.1 hlink
    refine ⟨hg.isTree_of_parent hp, ?_⟩
    rw [hg.level_child hp, ih.2, Nat.add_assoc]

theorem way_rootOf (hid : g.isTree id) : g.Way (g.rootOf id) (g.level id) id := by
  induction id, hid using hg.induction_down with
  | root id hid hp =>
    rw [hg.rootOf_of_root hp, hg.level_root hid hp]
    exact .here
  | child id p _ _ hp ih =>
    rw [hg.rootOf_of_parent hp, hg.level_child hp]
    exact ih.step (hg.mem_neighbors hp)

/-- From its root a node is reached in as many steps as its depth says, and in no other number. -/
theorem way_rootOf_iff (hid : g.isTree id) : g.Way (g.rootOf id) k id ↔ g.depth id = some k := by
  rw [depth_eq, if_pos hid, Option.some.injEq]
  constructor
  · intro h
    obtain ⟨hr, hp⟩ := isRoot_iff.1 (hg.isRoot_rootOf hid)
    rw [(hg.level_of_way hr h).2, hg.level_root hr hp, Nat.zero_add]
  · rintro rfl
    exact hg.way_rootOf hid

end Forest

/-- In every graph that calls lead to, a tree node has finitely many ancestors, all different and as
many as its depth says. Its root is a root of depth zero, and is the node itself when it has no
parent. Two tree nodes have the same root exactly when links between children and parents connect
them, so each tree has one root, and from the root a node is reached along links in as many steps as
its depth says. -/
theorem ancestors_depth_rootOf (hg : g.Built) :
    (∀ n, g.isTree n →
      (Trail g.parent (g.parent n) (g.ancestors n) ∧ (g.ancestors n).Nodup ∧
        g.depth n = some (g.ancestors n).length) ∧
      (g.isRoot (g.rootOf n) ∧ g.depth (g.rootOf n) = some 0 ∧
        (g.rootOf n = n ↔ g.parent n = none)) ∧
      (∃! r, g.isRoot r ∧ Relation.EqvGen g.Up n r) ∧
      ∀ k, g.Way (g.rootOf n) k n ↔ g.depth n = some k) ∧
    ∀ m n, g.isTree m → g.isTree n →
      (g.rootOf m = g.rootOf n ↔ Relation.EqvGen g.Up m n) := by
  have hf := hg.forest
  refine ⟨fun n hn => ⟨⟨hf.trail_ancestors n, hf.nodup_climb _ n, hf.depth_eq_length_ancestors hn⟩,
    ⟨hf.isRoot_rootOf hn, ?_, hf.rootOf_eq_self_iff hn⟩, hf.existsUnique_root hn,
    fun _ => hf.way_rootOf_iff hn⟩, fun m n hm hn => hf.rootOf_eq_iff hm hn⟩
  obtain ⟨hr, hp⟩ := isRoot_iff.1 (hf.isRoot_rootOf hn)
  rw [depth_eq, if_pos hr, hf.level_root hr hp]

/-- A tree of two nodes that was first hung under one node and then under another. -/
private def replanted : Graph :=
  .build [.add "old" .tree, .add "inner" .tree, .add "leaf" .binary, .add "new" .tree,
    .addChild 1 2, .addChild 0 1, .detach 1, .addChild 3 1]

/-- The leaf belongs to the tree of the new parent and no longer to that of the old one. -/
theorem ancestors_depth_rootOf_replanted : replanted.Built ∧ replanted.isTree 0 ∧
    replanted.isTree 2 ∧ replanted.ancestors 2 = [1, 3] ∧
    (∀ k, replanted.Way 3 k 2 ↔ replanted.depth 2 = some k) ∧
    replanted.depth 2 = some 2 ∧ ¬ Relation.EqvGen replanted.Up 2 0 := by
  have hbuilt : replanted.Built := ⟨_, rfl⟩
  have h₀ : replanted.isTree 0 := by decide
  have h₂ : replanted.isTree 2 := by decide
  have hroots : replanted.rootOf 2 ≠ replanted.rootOf 0 := by decide
  obtain ⟨hnode, hconnected⟩ := ancestors_depth_rootOf hbuilt
  obtain ⟨⟨-, -, hdepth⟩, -, -, hway⟩ := hnode 2 h₂
  exact ⟨hbuilt, h₀, h₂, by decide, hway, hdepth, fun h => hroots ((hconnected 2 0 h₂ h₀).2 h)⟩

end Graph

end GraphSelect
