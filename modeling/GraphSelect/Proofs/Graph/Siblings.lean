import GraphSelect.Proofs.Graph.Ancestry
import GraphSelect.Selector.Builtin

/-!
# Siblings

Some look-ups go by the place that a child has stored, others by the list of children. In a forest
a node stands at a place among the children of a parent exactly when it has stored both, so the two
kinds of look-ups see the same order.
-/
namespace GraphSelect

namespace Graph

variable {g : Graph} {a b c p : NodeId} {i : Nat} {before after : List NodeId}

/-- The second node stands directly behind the first among the children of one parent. -/
def Behind (g : Graph) (a b : NodeId) : Prop :=
  ∃ p before after, g.children p = before ++ a :: b :: after

namespace Linked

variable (hg : g.Linked)

include hg

theorem place_iff : g.parent c = some p ∧ g.index c = some i ↔ (g.children p)[i]? = some c := by
  constructor
  · rintro ⟨hp, hi⟩
    exact (hg.place hp hi).2
  · intro hc
    obtain ⟨hp, hmem⟩ := mem_children.1 (List.mem_of_getElem? hc)
    rw [children_of_isTree hp] at hc
    obtain ⟨hlt, rfl⟩ := List.getElem?_eq_some_iff.1 hc
    refine ⟨hg.parent_of_mem hp hmem, ?_⟩
    rw [hg.index_of_parent (hg.parent_of_mem hp hmem), (hg.nodup p).idxOf_getElem]

theorem place_of_children (h : g.children p = before ++ c :: after) :
    g.parent c = some p ∧ g.index c = some before.length := by
  rw [hg.place_iff, h]
  simp

theorem nextSibling_of_children (h : g.children p = before ++ a :: after) :
    g.nextSibling a = after.head? := by
  obtain ⟨hp, hi⟩ := hg.place_of_children h
  have hnext : g.nextSibling a = (before ++ a :: after)[before.length + 1]? := by
    rw [← h]
    simp only [nextSibling, hp, hi]
  rw [hnext, List.getElem?_append_right (Nat.le_add_right _ 1), Nat.add_sub_cancel_left,
    List.getElem?_cons_succ, List.head?_eq_getElem?]

theorem previousSibling_of_children (h : g.children p = before ++ b :: after) :
    g.previousSibling b = before.getLast? := by
  obtain ⟨hp, hi⟩ := hg.place_of_children h
  rcases List.eq_nil_or_concat before with rfl | ⟨l, a, rfl⟩
  · simp [previousSibling, hp, hi]
  · simp [previousSibling, hp, hi, h]

theorem exists_children_eq (hp : g.parent c = some p) :
    ∃ before after, g.children p = before ++ c :: after :=
  List.append_of_mem (hg.parent hp)

theorem nextSibling_eq_some_iff : g.nextSibling a = some b ↔ g.Behind a b := by
  constructor
  · intro h
    cases hp : g.parent a with
    | none => simp [nextSibling, hp] at h
    | some p =>
      obtain ⟨before, after, hc⟩ := hg.exists_children_eq hp
      rw [hg.nextSibling_of_children hc] at h
      obtain ⟨rest, rfl⟩ := List.head?_eq_some_iff.1 h
      exact ⟨p, before, rest, hc⟩
  · rintro ⟨p, before, after, hc⟩
    rw [hg.nextSibling_of_children hc]
    rfl

theorem previousSibling_eq_some_iff : g.previousSibling b = some a ↔ g.Behind a b := by
  constructor
  · intro h
    cases hp : g.parent b with
    | none => simp [previousSibling, hp] at h
    | some p =>
      obtain ⟨before, after, hc⟩ := hg.exists_children_eq hp
      rw [hg.previousSibling_of_children hc] at h
      obtain ⟨rest, rfl⟩ := List.getLast?_eq_some_iff.1 h
      exact ⟨p, rest, after, by rw [hc, List.append_assoc]; rfl⟩
  · rintro ⟨p, before, after, hc⟩
    have hc' : g.children p = (before ++ [a]) ++ b :: after := by
      rw [hc, List.append_assoc]
      rfl
    rw [hg.previousSibling_of_children hc', List.getLast?_concat]

/-- From any child on, the following ones are met in their order. -/
theorem trail_nextSibling (h : g.children p = before ++ after) :
    Trail g.nextSibling after.head? after := by
  induction after generalizing before with
  | nil => exact .done
  | cons a after ih =>
    have htail : g.children p = (before ++ [a]) ++ after := by
      rw [h, List.append_assoc]
      rfl
    refine .step ?_
    rw [hg.nextSibling_of_children h]
    exact ih htail

theorem previousSibling_eq_none_iff (hp : g.parent c = some p) :
    g.previousSibling c = none ↔ g.index c = some 0 := by
  obtain ⟨before, after, hc⟩ := hg.exists_children_eq hp
  rw [hg.previousSibling_of_children hc, (hg.place_of_children hc).2]
  simp

theorem nextSibling_eq_none_iff (hp : g.parent c = some p) :
    g.nextSibling c = none ↔ (g.children p).getLast? = some c := by
  obtain ⟨before, after, hc⟩ := hg.exists_children_eq hp
  have hnodup : (before ++ c :: after).Nodup := by
    rw [← hc, children_of_isTree (hg.isTree_parent hp)]
    exact hg.nodup p
  rw [hg.nextSibling_of_children hc, hc, List.head?_eq_none_iff, List.getLast?_append_cons]
  cases after with
  | nil => simp
  | cons d rest =>
    have hlast : ∀ e, (d :: rest).getLast? = some e → e ≠ c := by
      rintro e he rfl
      exact (List.nodup_cons.1 (List.nodup_append.1 hnodup).2.1).1 (List.mem_of_getLast? he)
    rw [List.getLast?_cons_cons]
    exact ⟨nofun, fun h => absurd rfl (hlast c h)⟩

theorem binaryChild_eq_some_iff (hk : g.kind? p = some .binary) :
    g.binaryChild p i = some c ↔ g.parent c = some p ∧ g.index c = some i := by
  obtain ⟨n, hn, hkind⟩ := Option.map_eq_some_iff.1 hk
  have hp : g.isTree p := isTree_iff.2 ⟨n, hn, by rw [hkind]; rfl⟩
  rw [hg.place_iff, children_of_isTree hp, neighbors_eq hn]
  simp [binaryChild, hn, hkind]

/-- A child of a binary node is in one of its two places and not in the other. -/
theorem left_or_right (hk : g.kind? p = some .binary) (hp : g.parent c = some p) :
    (g.left p = some c ∨ g.right p = some c) ∧ ¬ (g.left p = some c ∧ g.right p = some c) := by
  have hi := hg.index_of_parent hp
  have hlt := List.idxOf_lt_length_of_mem (hg.mem_neighbors hp)
  have hmax := hg.binary hk
  rw [left, right, hg.binaryChild_eq_some_iff hk, hg.binaryChild_eq_some_iff hk, hi]
  simp only [hp, true_and, Option.some.injEq]
  omega

end Linked

section

variable (hg : g.Linked) (context : Context) (hc : context.graph = g)

include hg hc

theorem Linked.isFirst_iff : Builtin.isFirst context a ↔
    (∃ p, g.parent a = some p) ∧ g.previousSibling a = none := by
  rw [Builtin.isFirst, hc, decide_eq_true_iff]
  cases hp : g.parent a with
  | none => simp [hg.index hp]
  | some p => simp [hg.previousSibling_eq_none_iff hp]

theorem Linked.isLast_iff : Builtin.isLast context a ↔
    (∃ p, g.parent a = some p) ∧ g.nextSibling a = none := by
  rw [Builtin.isLast, hc]
  cases hp : g.parent a with
  | none => simp
  | some p => simp [hg.nextSibling_eq_none_iff hp]

end

/-- In every graph that calls lead to, the next sibling of a node is the one whose previous sibling
it is, which is the one directly behind it among the children of the same parent. From the child
with the first place on, the next siblings are all children of the parent in their order. The
built-in functions for the first and the last child accept the nodes with a parent that have no
sibling in front of them or behind them, and a child of a binary node is either its left or its
right one. -/
theorem siblings_agree (hg : g.Built) :
    (∀ a b, (g.nextSibling a = some b ↔ g.previousSibling b = some a) ∧
      (g.previousSibling b = some a ↔ ∃ p before after, g.parent a = some p ∧
        g.parent b = some p ∧ g.children p = before ++ a :: b :: after)) ∧
    (∀ p, Trail g.nextSibling (g.children p).head? (g.children p) ∧
      ∀ c, (g.children p).head? = some c ↔ g.parent c = some p ∧ g.index c = some 0) ∧
    (∃ first last, Builtin.registry.resolve "first" .empty = .ok first ∧
      Builtin.registry.resolve "last" .empty = .ok last ∧
      ∀ (context : Context) (a : NodeId), context.graph = g →
        (first context a ↔ (∃ p, g.parent a = some p) ∧ g.previousSibling a = none) ∧
        (last context a ↔ (∃ p, g.parent a = some p) ∧ g.nextSibling a = none)) ∧
    ∀ p c, g.kind? p = some .binary → g.parent c = some p →
      (g.left p = some c ∨ g.right p = some c) ∧ ¬ (g.left p = some c ∧ g.right p = some c) := by
  have hl := hg.forest.toLinked
  refine ⟨fun a b => ⟨?_, ?_⟩, fun p => ⟨hl.trail_nextSibling (List.nil_append _).symm, fun c => ?_⟩,
    ⟨Builtin.isFirst, Builtin.isLast, rfl, rfl, fun context a hc =>
      ⟨hl.isFirst_iff context hc, hl.isLast_iff context hc⟩⟩, fun p c => hl.left_or_right⟩
  · rw [hl.nextSibling_eq_some_iff, hl.previousSibling_eq_some_iff]
  · rw [hl.previousSibling_eq_some_iff]
    constructor
    · rintro ⟨p, before, after, hc⟩
      have hc' : g.children p = (before ++ [a]) ++ b :: after := by
        rw [hc, List.append_assoc]
        rfl
      exact ⟨p, before, after, (hl.place_of_children hc).1, (hl.place_of_children hc').1, hc⟩
    · rintro ⟨p, before, after, -, -, hc⟩
      exact ⟨p, before, after, hc⟩
  · rw [hl.place_iff, List.head?_eq_getElem?]

private def pair : Graph :=
  .build [.add "parent" .binary, .add "late" .binary, .add "early" .binary, .add "gone" .binary,
    .addChild 0 3, .addChild 0 2, .removeChild 0 3, .insertChild 0 0 1]

theorem siblings_agree_pair : pair.Built ∧ pair.children 0 = [1, 2] ∧
    pair.nextSibling 1 = some 2 ∧ pair.previousSibling 2 = some 1 ∧
    Trail pair.nextSibling (some 1) [1, 2] ∧
    pair.kind? 0 = some .binary ∧ pair.parent 2 = some 0 ∧
    ¬ (pair.left 0 = some 2 ∧ pair.right 0 = some 2) := by
  have hbuilt : pair.Built := ⟨_, rfl⟩
  have hchildren : pair.children 0 = [1, 2] := by decide
  have hkind : pair.kind? 0 = some .binary := by decide
  have hparent : pair.parent 2 = some 0 := by decide
  have hnext : pair.nextSibling 1 = some 2 := by decide
  obtain ⟨hsiblings, htrail, -, hplaces⟩ := siblings_agree hbuilt
  have hrow := (htrail 0).1
  rw [hchildren] at hrow
  exact ⟨hbuilt, hchildren, hnext, (hsiblings 1 2).1.1 hnext, hrow, hkind, hparent,
    (hplaces 0 2 hkind hparent).2⟩

end Graph

end GraphSelect
