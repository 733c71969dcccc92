import GraphSelect.Proofs.Graph.Links
import Mathlib.Data.Fintype.Card

/-!
# Forests

The tree nodes of a graph form a forest when what is stored twice agrees: the children of a node
and the parents of its children, the order of the children and their places, the ways to the
root and the levels. Levels fall on the way up, so no way up comes back to its start; they stay
below the number of nodes, so the bounded climb to the ancestors finds all of them.
-/
namespace GraphSelect.Graph

structure Linked (g : Graph) : Prop where
  neighbor_lt : ∀ {id n}, n ∈ g.neighbors id → n < g.size
  nodup : ∀ id, (g.neighbors id).Nodup
  child : ∀ {id n}, g.isTree id → n ∈ g.neighbors id →
    g.isTree n ∧ g.parent n = some id ∧ g.index n = some ((g.neighbors id).idxOf n)
  parent : ∀ {id p}, g.parent id = some p → id ∈ g.children p
  index : ∀ {id}, g.parent id = none → g.index id = none
  binary : ∀ {id}, g.kind? id = some .binary → (g.neighbors id).length ≤ 2

/-- The links agree, and every level is the distance from the root. -/
structure Forest (g : Graph) : Prop extends Linked g where
  level_root : ∀ {id}, g.isTree id → g.parent id = none → g.level id = 0
  level_child : ∀ {id p}, g.parent id = some p → g.level id = g.level p + 1

namespace Linked

variable {g : Graph} {id p n : NodeId}

theorem isTree_parent (hg : g.Linked) (h : g.parent id = some p) : g.isTree p :=
  (mem_children.1 (hg.parent h)).1

theorem mem_neighbors (hg : g.Linked) (h : g.parent id = some p) : id ∈ g.neighbors p :=
  (mem_children.1 (hg.parent h)).2

theorem isTree_of_parent (hg : g.Linked) (h : g.parent id = some p) : g.isTree id :=
  (hg.child (hg.isTree_parent h) (hg.mem_neighbors h)).1

theorem parent_of_mem (hg : g.Linked) (hid : g.isTree id) (h : n ∈ g.neighbors id) :
    g.parent n = some id := (hg.child hid h).2.1

theorem index_of_parent (hg : g.Linked) (h : g.parent id = some p) :
    g.index id = some ((g.neighbors p).idxOf id) :=
  (hg.child (hg.isTree_parent h) (hg.mem_neighbors h)).2.2

theorem isTree_of_reaches (hg : g.Linked) (hid : g.isTree id) (h : g.Reaches id n) :
    g.isTree n := by
  induction h with
  | refl => exact hid
  | tail _ hl ih => exact (hg.child ih hl).1

/-- From what can be reached from a tree node the way up leads back to it. -/
theorem up_of_reaches (hg : g.Linked) (hid : g.isTree id) (h : g.Reaches id n) :
    Relation.ReflTransGen g.Up n id := by
  induction h with
  | refl => exact .refl
  | tail hreach hl ih => exact .head (hg.parent_of_mem (hg.isTree_of_reaches hid hreach) hl) ih

end Linked

namespace Forest

variable {g : Graph} {id p a : NodeId}

theorem level_lt_of_up (hg : g.Forest) (h : Relation.TransGen g.Up id a) :
    g.level a < g.level id := by
  induction h with
  | single hp =>
    have := hg.level_child hp
    omega
  | tail _ hp ih =>
    have := hg.level_child hp
    omega

/-- Following parents never comes back. -/
theorem acyclic (hg : g.Forest) (id : NodeId) : ¬ Relation.TransGen g.Up id id :=
  fun h => Nat.lt_irrefl _ (hg.level_lt_of_up h)

/-- On every height below a node some tree node stands above it, or is the node itself. -/
theorem exists_level_eq (hg : g.Forest) (hid : g.isTree id) {l : Nat} (hl : l ≤ g.level id) :
    ∃ a, g.isTree a ∧ g.level a = l := by
  induction h : g.level id - l generalizing id with
  | zero => exact ⟨id, hid, by omega⟩
  | succ k ih =>
    cases hp : g.parent id with
    | none =>
      have := hg.level_root hid hp
      omega
    | some p =>
      have := hg.level_child hp
      exact ih (hg.isTree_parent hp) (by omega) (by omega)

/-- The nodes of different levels are different, so there are more nodes than levels. -/
theorem level_lt_size (hg : g.Forest) (hid : g.isTree id) : g.level id < g.size := by
  have hex : ∀ l : Fin (g.level id + 1), ∃ a : Fin g.size, g.level a = l := by
    intro l
    obtain ⟨a, ha, hl⟩ := hg.exists_level_eq hid (Nat.le_of_lt_succ l.2)
    exact ⟨⟨a, lt_size_of_isTree ha⟩, hl⟩
  choose node hnode using hex
  have hinj : Function.Injective node := by
    intro l m h
    apply Fin.ext
    rw [← hnode l, ← hnode m, h]
  have hcard := Fintype.card_le_of_injective node hinj
  rwa [Fintype.card_fin, Fintype.card_fin] at hcard

theorem up_of_mem_climb {steps : Nat} (h : a ∈ g.climb steps id) :
    Relation.TransGen g.Up id a := by
  induction steps generalizing id with
  | zero => simp [climb] at h
  | succ steps ih =>
    rw [climb] at h
    cases hp : g.parent id with
    | none => simp [hp] at h
    | some p =>
      simp only [hp, List.mem_cons] at h
      rcases h with rfl | h
      · exact .single hp
      · exact .head hp (ih h)

theorem mem_climb_of_up (hg : g.Forest) {steps : Nat} (hs : g.level id ≤ steps)
    (h : Relation.TransGen g.Up id a) : a ∈ g.climb steps id := by
  induction h using Relation.TransGen.head_induction_on generalizing steps with
  | single hp =>
    have := hg.level_child hp
    obtain ⟨k, rfl⟩ : ∃ k, steps = k + 1 := ⟨steps - 1, by omega⟩
    rw [climb, hp]
    exact List.mem_cons_self
  | head hp _ ih =>
    have := hg.level_child hp
    obtain ⟨k, rfl⟩ : ∃ k, steps = k + 1 := ⟨steps - 1, by omega⟩
    rw [climb, hp]
    exact List.mem_cons_of_mem _ (ih (by omega))

theorem mem_ancestors_iff (hg : g.Forest) : a ∈ g.ancestors id ↔ Relation.TransGen g.Up id a := by
  constructor
  · exact up_of_mem_climb
  · intro h
    have hid : g.isTree id := by
      obtain ⟨p, hp, -⟩ := Relation.TransGen.head'_iff.1 h
      exact hg.isTree_of_parent hp
    exact hg.mem_climb_of_up (Nat.le_of_lt (hg.level_lt_size hid)) h

end Forest

end GraphSelect.Graph
