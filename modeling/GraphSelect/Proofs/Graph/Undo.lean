import GraphSelect.Proofs.Graph.Moved

/-!
# Moves undo each other

In a forest the links decide everything else that is stored about places: who the parent of a node
is, which place it has and how far it is from its root. So two forests with the same labels and
links are one graph, up to the levels of plain nodes, which no move touches. A tree that is hung in
and taken out again, or taken out and hung in at its old place, leaves the links as they were, and
with them the whole graph.
-/
namespace GraphSelect.Graph

variable {g h k : Graph} {parent child id p : NodeId} {position level level' : Nat}
  {up up' : Option NodeId} {children : List NodeId}

theorem Linked.parent_eq_some_iff (hg : g.Linked) : g.parent id = some p ↔ id ∈ g.children p := by
  refine ⟨hg.parent, fun hid => ?_⟩
  obtain ⟨htree, hmem⟩ := mem_children.1 hid
  exact hg.parent_of_mem htree hmem

/-- The look-ups of a number tell its node. -/
theorem get?_eq_of_lookups (hlabel : h.label? id = g.label? id)
    (hneighbors : h.neighbors id = g.neighbors id) (hparent : h.parent id = g.parent id)
    (hindex : h.index id = g.index id) (hlevel : h.level id = g.level id) :
    h.get? id = g.get? id := by
  cases hn : g.get? id with
  | none =>
    rw [label?, label?, hn, Option.map_none] at hlabel
    exact Option.map_eq_none_iff.1 hlabel
  | some n =>
    rw [label?, label?, hn, Option.map_some] at hlabel
    obtain ⟨m, hm, heq⟩ := Option.map_eq_some_iff.1 hlabel
    rw [neighbors_eq hm, neighbors_eq hn] at hneighbors
    rw [parent_eq hm, parent_eq hn] at hparent
    rw [index_eq hm, index_eq hn] at hindex
    rw [level_eq hm, level_eq hn] at hlevel
    rw [hm, Option.some.injEq]
    cases m
    cases n
    simp_all [Node.label]

namespace Forest

variable (hg : g.Forest) (hh : h.Forest) (hlabel : ∀ id, h.label? id = g.label? id)
  (hneighbors : ∀ id, h.neighbors id = g.neighbors id)

include hg hh hlabel hneighbors

theorem parent_eq_of_links (id : NodeId) : h.parent id = g.parent id := by
  have hchildren : ∀ p, h.children p = g.children p := by
    intro p
    have htree : h.isTree p = g.isTree p := by
      rw [isTree, isTree, kind?_eq_map_label?, kind?_eq_map_label?, hlabel]
    rw [children_eq, children_eq, htree, hneighbors]
  apply Option.ext
  intro p
  rw [hh.parent_eq_some_iff, hg.parent_eq_some_iff, hchildren]

theorem index_eq_of_links (id : NodeId) : h.index id = g.index id := by
  have hparent := parent_eq_of_links hg hh hlabel hneighbors id
  cases hp : g.parent id with
  | none => rw [hg.index hp, hh.index (hparent.trans hp)]
  | some p => rw [hg.index_of_parent hp, hh.index_of_parent (hparent.trans hp), hneighbors]

theorem level_eq_of_links (hid : g.isTree id) : h.level id = g.level id := by
  have hparent := parent_eq_of_links hg hh hlabel hneighbors id
  induction hl : g.level id using Nat.strong_induction_on generalizing id with
  | _ l ih =>
    subst hl
    cases hp : g.parent id with
    | none =>
      have hid' : h.isTree id := by rwa [isTree, kind?_eq_map_label?, hlabel, ← kind?_eq_map_label?]
      rw [hg.level_root hid hp, hh.level_root hid' (hparent.trans hp)]
    | some p =>
      have hlevel := hg.level_child hp
      have hup := ih (g.level p) (by omega) (hg.isTree_parent hp)
        (parent_eq_of_links hg hh hlabel hneighbors p) rfl
      rw [hlevel, hh.level_child (hparent.trans hp), hup]

/-- Two forests with the same labels, links and levels of plain nodes are one graph. -/
theorem eq_of_links (hplain : ∀ id, g.isTree id = false → h.level id = g.level id) : h = g := by
  refine ext_get? fun id => get?_eq_of_lookups (hlabel id) (hneighbors id)
    (parent_eq_of_links hg hh hlabel hneighbors id)
    (index_eq_of_links hg hh hlabel hneighbors id) ?_
  cases hid : g.isTree id with
  | true => exact level_eq_of_links hg hh hlabel hneighbors hid
  | false => exact hplain id hid

end Forest

theorem Moved.kind?_eq (hm : Moved g h parent children child up level) (id : NodeId) :
    h.kind? id = g.kind? id := by
  rw [kind?_eq_map_label?, kind?_eq_map_label?, hm.label?]

theorem Moved.isTree_eq (hm : Moved g h parent children child up level) (id : NodeId) :
    h.isTree id = g.isTree id := by
  rw [isTree, isTree, hm.kind?_eq]

/-- Moving a tree changes no level of a plain node. -/
theorem Moved.level_of_plain (hg : g.Forest) (hm : Moved g h parent children child up level)
    (hchild : g.isTree child) (hid : g.isTree id = false) : h.level id = g.level id := by
  refine hm.level id fun hreach => ?_
  rw [hg.isTree_of_reaches hchild hreach] at hid
  cases hid

/-- A move that gives a node its former children again undoes the move before. -/
theorem Moved.eq_of_back (hg : g.Forest) (hh : h.Forest) (hk : k.Forest) (hchild : g.isTree child)
    (hm : Moved g h parent children child up level)
    (hback : Moved h k parent (g.neighbors parent) child up' level') : k = g := by
  refine hg.eq_of_links hk (fun id => ?_) (fun id => ?_) fun id hid => ?_
  · rw [hback.label?, hm.label?]
  · rw [hback.neighbors]
    split
    · next hid => rw [hid]
    · next hid => rw [hm.neighbors, if_neg hid]
  · rw [hback.level_of_plain hh (hm.isTree_eq child ▸ hchild) (hm.isTree_eq id ▸ hid),
      hm.level_of_plain hg hchild hid]

theorem idxOf_insertIdx {l : List NodeId} (hnodup : (l.insertIdx position child).Nodup)
    (hpos : position ≤ l.length) : (l.insertIdx position child).idxOf child = position := by
  have hlt : position < (l.insertIdx position child).length := by
    rw [List.length_insertIdx_of_le_length hpos]
    exact Nat.lt_succ_of_le hpos
  have hplace := hnodup.idxOf_getElem position hlt
  rwa [List.getElem_insertIdx_self] at hplace

/-- A tree that has been hung in can be taken out again, and then nothing has changed. -/
theorem Forest.removeChild_of_insertChild (hg : g.Forest)
    (hinsert : g.insertChild parent position child = .ok h) :
    h.removeChild parent child = .ok g := by
  have hh := hg.insertChild hinsert
  have hm := hg.moved_insertChild hinsert
  obtain ⟨hins, -⟩ := insertChild_eq_ok_iff.1 hinsert
  rw [children_of_isTree hins.isTree_parent] at hm
  have hnodup := (hins.fits hg).nodup
  have hlinks : h.neighbors parent = (g.neighbors parent).insertIdx position child := by
    rw [hm.neighbors, if_pos rfl]
  have hp : h.parent child = some parent := by rw [hm.parent, if_pos rfl]
  have hi : h.index child = some position := by
    rw [hh.index_of_parent hp, hlinks, idxOf_insertIdx hnodup hins.position_le]
  have hback := hh.moved_release hp hi
  rw [← hh.eraseIdx_eq_erase hp hi, hlinks, List.eraseIdx_insertIdx_self] at hback
  refine removeChild_eq_ok_iff.2 ⟨lt_size_of_isTree (hh.isTree_parent hp), hp, position, hi, ?_⟩
  exact (hm.eq_of_back hg hh (hh.release hp hi) hins.isTree_child hback).symm

/-- A child that has been taken out fits in at its old place. -/
theorem Forest.insertable_of_removeChild (hg : g.Forest) (hp : g.parent child = some parent)
    (hplace : position < (g.neighbors parent).length)
    (hremove : g.removeChild parent child = .ok h) : h.Insertable parent position child := by
  have hm := hg.moved_removeChild hremove
  rw [children_of_isTree (hg.isTree_parent hp)] at hm
  have hlength : (h.neighbors parent).length + 1 = (g.neighbors parent).length := by
    rw [hm.neighbors, if_pos rfl, List.length_erase_add_one (hg.mem_neighbors hp)]
  have hroot : h.parent child = none := by rw [hm.parent, if_pos rfl]
  refine ⟨?_, ?_, ?_, hroot, fun hk => ?_, by omega, fun habove => ?_⟩
  · rw [hm.isTree_eq]
    exact hg.isTree_parent hp
  · rw [hm.isTree_eq]
    exact hg.isTree_of_parent hp
  · rintro rfl
    exact hg.acyclic _ (.single hp)
  · have hcap := hg.binary (hm.kind?_eq parent ▸ hk)
    omega
  · -- The way up from `parent` does not leave through the root `child`, so it was there before.
    have hup : ∀ m n, h.Up m n → g.Up m n := by
      intro m n hmn
      rw [Up, hm.parent] at hmn
      split at hmn
      · cases hmn
      · exact hmn
    have hcycle : Relation.TransGen g.Up parent child :=
      Relation.TransGen.mono hup _ _ ((hg.removeChild hremove).mem_ancestors_iff.1 habove)
    exact hg.acyclic child (.head hp hcycle)

/-- A child that has been taken out can be hung in again, and then nothing has changed. -/
theorem Forest.insertChild_of_removeChild (hg : g.Forest)
    (hplace : (g.children parent)[position]? = some child) :
    ∃ h, g.removeChild parent child = .ok h ∧ h.insertChild parent position child = .ok g := by
  obtain ⟨hparent, hmem⟩ := mem_children.1 (List.mem_of_getElem? hplace)
  rw [children_of_isTree hparent] at hplace
  obtain ⟨hlt, hget⟩ := List.getElem?_eq_some_iff.1 hplace
  have hp := hg.parent_of_mem hparent hmem
  have hi : g.index child = some position := by
    rw [hg.index_of_parent hp, ← hget, (hg.nodup parent).idxOf_getElem]
  obtain ⟨h, hremove⟩ := hg.exists_removeChild_iff.2
    ⟨lt_size_of_isTree hparent, lt_size_of_isTree (hg.isTree_of_parent hp), hp⟩
  have hh := hg.removeChild hremove
  have hm := hg.moved_removeChild hremove
  have hins := hg.insertable_of_removeChild hp hlt hremove
  have hback := hins.moved hh
  rw [hm.neighbors, if_pos rfl, children_of_isTree hparent, ← hg.eraseIdx_eq_erase hp hi, ← hget,
    List.insertIdx_eraseIdx_getElem hlt, hget] at hback
  refine ⟨h, hremove, insertChild_eq_ok_iff.2 ⟨hins, ?_⟩⟩
  exact (hm.eq_of_back hg hh (hins.forest hh) (hg.isTree_of_parent hp) hback).symm

/-- Hanging a tree in and taking it out again, by either call, gives the former graph, and so does
taking a child out and hanging it in at its old place; neither way is ever refused. -/
theorem insertChild_removeChild_inverse (hg : g.Built) (parent child : NodeId) (position : Nat) :
    (∀ h, g.insertChild parent position child = .ok h →
      h.removeChild parent child = .ok g ∧ h.detach child = .ok g) ∧
    ((g.children parent)[position]? = some child →
      ∃ h, g.removeChild parent child = .ok h ∧ h.insertChild parent position child = .ok g) := by
  refine ⟨fun h hinsert => ?_, hg.forest.insertChild_of_removeChild⟩
  have hremove := hg.forest.removeChild_of_insertChild hinsert
  obtain ⟨-, hlt, hp⟩ := (hg.forest.insertChild hinsert).exists_removeChild_iff.1 ⟨g, hremove⟩
  exact ⟨hremove, detach_eq_ok_iff.2 ⟨hlt, .inr ⟨parent, hp, hremove⟩⟩⟩

private def grove : Graph :=
  .build [.add "root" .tree, .add "left" .tree, .add "right" .tree, .addChild 0 1, .addChild 0 2,
    .add "other" .tree, .add "leaf" .tree, .addChild 3 4]

/-- The second tree goes between the two children and out again; the first child goes out and back
in front of the other. -/
theorem insertChild_removeChild_inverse_grove : Built grove ∧
    (∃ h, grove.insertChild 0 1 3 = .ok h ∧ h.removeChild 0 3 = .ok grove ∧
      h.detach 3 = .ok grove) ∧
    (grove.children 0)[0]? = some 1 ∧
    ∃ h, grove.removeChild 0 1 = .ok h ∧ h.insertChild 0 0 1 = .ok grove := by
  have hbuilt : Built grove := ⟨_, rfl⟩
  have hplace : (grove.children 0)[0]? = some 1 := by decide
  obtain ⟨h, hinsert⟩ : ∃ h, grove.insertChild 0 1 3 = .ok h := ⟨_, rfl⟩
  refine ⟨hbuilt, ⟨h, hinsert, ?_⟩, hplace, ?_⟩
  · exact (insertChild_removeChild_inverse hbuilt 0 3 1).1 h hinsert
  · exact (insertChild_removeChild_inverse hbuilt 0 1 0).2 hplace

end GraphSelect.Graph
