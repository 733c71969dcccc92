import GraphSelect.Proofs.Graph.Subtree

/-!
# Moving trees keeps a forest

A rearrangement changes the children of one node and hangs one node in or out of them. When the
change fits the forest, the new links agree again, the moved node is the top of its subtree, and
the levels set for that subtree are its distances from the root. Putting a tree in and taking one
out are two rearrangements that fit.
-/
namespace GraphSelect.Graph

/-- What a rearrangement of a forest has to respect: `children` become the children of `parent`,
numbered from `start` on, and `child` hangs under `up`, at a given level. -/
structure Fits (g : Graph) (parent : NodeId) (children : List NodeId) (start : Nat) (child : NodeId)
    (up : Option NodeId) (level : Nat) : Prop where
  isTree_parent : g.isTree parent
  isTree_child : g.isTree child
  nodup : children.Nodup
  mem : ∀ n, n ≠ child → (n ∈ children ↔ n ∈ g.neighbors parent)
  place : ∀ n ∈ children.take start, n ≠ child ∧ g.index n = some (children.idxOf n)
  only : ∀ p, g.parent child = some p → p = parent
  binary : g.kind? parent = some .binary → children.length ≤ 2
  up : up = some parent ∧ child ∈ children ∧ level = g.level parent + 1 ∧ child ≠ parent ∧
      ¬ Relation.TransGen g.Up parent child ∨
    up = none ∧ child ∉ children ∧ level = 0

namespace Fits

variable {g h : Graph} {parent child : NodeId} {children : List NodeId} {start level : Nat}
  {up : Option NodeId}

theorem mem_of_up (hf : g.Fits parent children start child up level) {p : NodeId}
    (hu : up = some p) : p = parent ∧ child ∈ children := by
  rcases hf.up with ⟨hu', hc, -⟩ | ⟨hu', -⟩
  · exact ⟨Option.some.inj (hu.symm.trans hu'), hc⟩
  · cases hu.symm.trans hu'

theorem notMem_of_up (hf : g.Fits parent children start child up level) (hu : up = none) :
    child ∉ children ∧ level = 0 := by
  rcases hf.up with ⟨hu', -⟩ | ⟨-, hc⟩
  · cases hu.symm.trans hu'
  · exact hc

theorem up_of_mem (hf : g.Fits parent children start child up level) (hc : child ∈ children) :
    up = some parent := by
  rcases hf.up with ⟨hu, -⟩ | ⟨-, hc', -⟩
  · exact hu
  · exact absurd hc hc'

section

variable (hg : g.Forest) (hf : g.Fits parent children start child up level)
  (hr : Rearranged g h parent children start child up level)

include hr

theorem isTree_eq (id : NodeId) : h.isTree id = g.isTree id := by
  rw [isTree, isTree, hr.kind?]

include hg hf

/-- A neighbor of a tree node has that node as its parent after the rearrangement too. -/
theorem parent_of_mem {id n : NodeId} (hid : g.isTree id) (hn : n ∈ h.neighbors id) :
    h.parent n = some id := by
  rw [hr.neighbors] at hn
  rw [hr.parent]
  split at hn
  · next e =>
    subst e
    by_cases hc : n = child
    · subst hc
      rw [if_pos rfl, hf.up_of_mem hn]
    · rw [if_neg hc]
      exact hg.parent_of_mem hid ((hf.mem n hc).1 hn)
  · next e =>
    have hp := hg.parent_of_mem hid hn
    have hc : n ≠ child := by
      rintro rfl
      exact e (hf.only id hp)
    rw [if_neg hc, hp]

theorem neighbor_isTree {id n : NodeId} (hid : g.isTree id) (hn : n ∈ h.neighbors id) :
    g.isTree n := by
  by_cases hc : n = child
  · subst hc
    exact hf.isTree_child
  · have hp := parent_of_mem hg hf hr hid hn
    rw [hr.parent, if_neg hc] at hp
    exact hg.isTree_of_parent hp

theorem neighbor_index {id n : NodeId} (hid : g.isTree id) (hn : n ∈ h.neighbors id) :
    h.index n = some ((h.neighbors id).idxOf n) := by
  have hp := parent_of_mem hg hf hr hid hn
  have hlt := lt_size_of_isTree (neighbor_isTree hg hf hr hid hn)
  rw [hr.neighbors] at hn ⊢
  by_cases e : id = parent
  · rw [if_pos e] at hn ⊢
    by_cases hd : n ∈ children.drop start
    · exact hr.index_of_mem n hlt hd
    · have ht : n ∈ children.take start := by
        rw [← List.take_append_drop start children, List.mem_append] at hn
        exact hn.resolve_right hd
      obtain ⟨hc, hi⟩ := hf.place n ht
      rw [hr.index_of_notMem n hc hd, hi]
  · rw [if_neg e] at hn ⊢
    have hp' := hg.parent_of_mem hid hn
    have hc : n ≠ child := by
      rintro rfl
      exact e (hf.only id hp')
    have hd : n ∉ children.drop start := by
      intro hd
      have := hg.parent_of_mem hf.isTree_parent ((hf.mem n hc).1 (List.mem_of_mem_drop hd))
      exact e (Option.some.inj (hp'.symm.trans this))
    rw [hr.index_of_notMem n hc hd, hg.index_of_parent hp']

theorem linked (hi : up = none → h.index child = none) : h.Linked where
  neighbor_lt {id n} hn := by
    rw [hr.neighbors] at hn
    rw [hr.size]
    split at hn
    · by_cases hc : n = child
      · exact hc ▸ lt_size_of_isTree hf.isTree_child
      · exact hg.neighbor_lt ((hf.mem n hc).1 hn)
    · exact hg.neighbor_lt hn
  nodup id := by
    rw [hr.neighbors]
    split
    · exact hf.nodup
    · exact hg.nodup id
  child {id n} hid hn := by
    rw [isTree_eq hr] at hid ⊢
    exact ⟨neighbor_isTree hg hf hr hid hn, parent_of_mem hg hf hr hid hn,
      neighbor_index hg hf hr hid hn⟩
  parent {id p} hp := by
    rw [hr.parent] at hp
    rw [mem_children, isTree_eq hr, hr.neighbors]
    split at hp
    · next e =>
      obtain ⟨rfl, hc⟩ := hf.mem_of_up hp
      rw [if_pos rfl, e]
      exact ⟨hf.isTree_parent, hc⟩
    · next e =>
      refine ⟨hg.isTree_parent hp, ?_⟩
      split
      · next e' =>
        subst e'
        exact (hf.mem id e).2 (hg.mem_neighbors hp)
      · exact hg.mem_neighbors hp
  index {id} hp := by
    rw [hr.parent] at hp
    split at hp
    · next e => exact e ▸ hi hp
    · next e =>
      have hd : id ∉ children.drop start := by
        intro hd
        have := hg.parent_of_mem hf.isTree_parent ((hf.mem id e).1 (List.mem_of_mem_drop hd))
        cases hp.symm.trans this
      rw [hr.index_of_notMem id e hd, hg.index hp]
  binary {id} hk := by
    rw [hr.kind?] at hk
    rw [hr.neighbors]
    split
    · next e => exact hf.binary (e ▸ hk)
    · exact hg.binary hk

/-- What lies below the moved node after the rearrangement lay below it before. -/
theorem up_of_reaches {n : NodeId} (hn : h.Reaches child n) :
    n = child ∨ Relation.TransGen g.Up n child := by
  have key : g.isTree n ∧ (n = child ∨ Relation.TransGen g.Up n child) := by
    induction hn with
    | refl => exact ⟨hf.isTree_child, .inl rfl⟩
    | @tail m k _ hl ih =>
      refine ⟨neighbor_isTree hg hf hr ih.1 hl, ?_⟩
      have hp := parent_of_mem hg hf hr ih.1 hl
      rw [hr.parent] at hp
      split at hp
      · next e => exact .inl e
      · rcases ih.2 with rfl | hup
        · exact .inr (.single hp)
        · exact .inr (.head hp hup)
  exact key.2

theorem isTree_of_reaches {n : NodeId} (hn : h.Reaches child n) : g.isTree n := by
  induction hn with
  | refl => exact hf.isTree_child
  | tail _ hl ih => exact neighbor_isTree hg hf hr ih hl

/-- The moved node is the top of its subtree: it hangs under no node below it. -/
theorem topOf : h.TopOf child := by
  intro n hn hmem
  have hp := parent_of_mem hg hf hr (isTree_of_reaches hg hf hr hn) hmem
  rw [hr.parent, if_pos rfl] at hp
  obtain ⟨rfl, hc⟩ := hf.mem_of_up hp
  rcases hf.up with ⟨-, -, -, hne, habove⟩ | ⟨hu, -⟩
  · rcases up_of_reaches hg hf hr hn with e | hup
    · exact hne e.symm
    · exact habove hup
  · cases hp.symm.trans hu

/-- The listing of the moved subtree, from which its levels were set. -/
theorem listing (hi : up = none → h.index child = none) :
    Listing h child level (h.subtreeLevels child level) [] :=
  listing_subtreeLevels (linked hg hf hr hi) (by rw [isTree_eq hr]; exact hf.isTree_child)
    (topOf hg hf hr) level

theorem level_of_mem (hi : up = none → h.index child = none) {n : NodeId} {l : Nat}
    (hn : (n, l) ∈ h.subtreeLevels child level) : h.level n = l := by
  have htree := isTree_of_reaches hg hf hr
    ((listing hg hf hr hi).reached (List.mem_append_left [] hn))
  rw [hr.level n (lt_size_of_isTree htree),
    (lookup_subtreeLevels_iff (linked hg hf hr hi) (by rw [isTree_eq hr]; exact hf.isTree_child)
      (topOf hg hf hr)).2 hn, Option.getD_some]

theorem level_of_notMem (hi : up = none → h.index child = none) {n : NodeId} (hlt : n < g.size)
    (hn : ∀ l, (n, l) ∉ h.subtreeLevels child level) : h.level n = g.level n := by
  have hnone : (h.subtreeLevels child level).reverse.lookup n = none := by
    rw [Option.eq_none_iff_forall_ne_some]
    intro l hl
    exact hn l ((lookup_subtreeLevels_iff (linked hg hf hr hi)
      (by rw [isTree_eq hr]; exact hf.isTree_child) (topOf hg hf hr)).1 hl)
  rw [hr.level n hlt, hnone, Option.getD_none]

/-- A listed node other than the moved one hangs under a listed node, one level higher. -/
theorem exists_parent_mem (hi : up = none → h.index child = none) {n : NodeId} {l : Nat}
    (hn : (n, l) ∈ h.subtreeLevels child level) (hc : n ≠ child) :
    ∃ p k, (p, k) ∈ h.subtreeLevels child level ∧ h.parent n = some p ∧ l = k + 1 := by
  have hl := listing hg hf hr hi
  rcases hl.origin (List.mem_append_left [] hn) with ⟨e, -⟩ | ⟨p, k, hp, hm, e⟩
  · exact absurd e hc
  · have htree := isTree_of_reaches hg hf hr (hl.reached (List.mem_append_left [] hp))
    exact ⟨p, k, hp, parent_of_mem hg hf hr htree hm, e⟩

theorem level_moved (hi : up = none → h.index child = none) : h.level child = level := by
  have hroot := (listing hg hf hr hi).root_mem
  rw [List.append_nil] at hroot
  exact level_of_mem hg hf hr hi hroot

/-- A node that stays where it is, under a node that is not listed, keeps its level. -/
theorem level_of_parent_notMem (hi : up = none → h.index child = none) {id p : NodeId}
    (hid : g.isTree id) (hc : id ≠ child) (hp : h.parent id = some p)
    (hlp : ∀ k, (p, k) ∉ h.subtreeLevels child level) : h.level id = g.level id := by
  refine level_of_notMem hg hf hr hi (lt_size_of_isTree hid) fun l hl => ?_
  obtain ⟨q, k, hq, hp', -⟩ := exists_parent_mem hg hf hr hi hl hc
  rw [hp] at hp'
  exact hlp k (Option.some.inj hp' ▸ hq)

theorem level_root (hi : up = none → h.index child = none) {id : NodeId} (hid : h.isTree id)
    (hp : h.parent id = none) : h.level id = 0 := by
  rw [isTree_eq hr] at hid
  by_cases hc : id = child
  · subst hc
    rw [level_moved hg hf hr hi]
    rw [hr.parent, if_pos rfl] at hp
    exact (hf.notMem_of_up hp).2
  · rw [level_of_notMem hg hf hr hi (lt_size_of_isTree hid)]
    · rw [hr.parent, if_neg hc] at hp
      exact hg.level_root hid hp
    · intro l hl
      obtain ⟨p, -, -, hp', -⟩ := exists_parent_mem hg hf hr hi hl hc
      cases hp.symm.trans hp'

/-- Under a listed node the levels come from the list. Under another one nothing but the moved node
can have a new level, and that was chosen for its new parent. -/
theorem level_child (hi : up = none → h.index child = none) {id p : NodeId}
    (hp : h.parent id = some p) : h.level id = h.level p + 1 := by
  have hlinked := linked hg hf hr hi
  have hid : g.isTree id := isTree_eq hr id ▸ hlinked.isTree_of_parent hp
  have hptree : g.isTree p := isTree_eq hr p ▸ hlinked.isTree_parent hp
  by_cases hlp : ∃ k, (p, k) ∈ h.subtreeLevels child level
  · obtain ⟨k, hk⟩ := hlp
    have hmem := (listing hg hf hr hi).closed hk (hlinked.mem_neighbors hp)
    rw [List.append_nil] at hmem
    rw [level_of_mem hg hf hr hi hk, level_of_mem hg hf hr hi hmem]
  · have hlp := not_exists.1 hlp
    rw [level_of_notMem hg hf hr hi (lt_size_of_isTree hptree) hlp]
    by_cases hc : id = child
    · subst hc
      rw [level_moved hg hf hr hi]
      rw [hr.parent, if_pos rfl] at hp
      rcases hf.up with ⟨hu, -, hlevel, -⟩ | ⟨hu, -⟩
      · rw [hlevel, Option.some.inj (hp.symm.trans hu)]
      · cases hp.symm.trans hu
    · rw [level_of_parent_notMem hg hf hr hi hid hc hp hlp]
      rw [hr.parent, if_neg hc] at hp
      exact hg.level_child hp

theorem forest (hi : up = none → h.index child = none) : h.Forest where
  toLinked := linked hg hf hr hi
  level_root hid hp := level_root hg hf hr hi hid hp
  level_child hp := level_child hg hf hr hi hp

end

end Fits

structure Insertable (g : Graph) (parent : NodeId) (position : Nat) (child : NodeId) : Prop where
  isTree_parent : g.isTree parent
  isTree_child : g.isTree child
  ne : parent ≠ child
  root : g.parent child = none
  room : g.kind? parent = some .binary → (g.neighbors parent).length < 2
  position_le : position ≤ (g.neighbors parent).length
  notMem_ancestors : child ∉ g.ancestors parent

theorem moves_under (parent : NodeId) :
    Moves (fun n => { n with parent := some parent }) (some parent) :=
  ⟨fun _ => rfl, fun _ => rfl, fun _ => rfl, fun _ => rfl⟩

theorem moves_out : Moves (fun n => { n with parent := none, index := none }) none :=
  ⟨fun _ => rfl, fun _ => rfl, fun _ => rfl, fun _ => rfl⟩

section Move

variable {g : Graph} {parent child : NodeId} {position : Nat}

/-- The children in front of the change keep their places. -/
theorem Forest.index_of_mem_take (hg : g.Forest) (hparent : g.isTree parent)
    {children : List NodeId} {start : Nat}
    (e : children.take start = (g.neighbors parent).take start) {n : NodeId}
    (hn : n ∈ children.take start) : g.index n = some (children.idxOf n) := by
  have hn' : n ∈ (g.neighbors parent).take start := e ▸ hn
  rw [hg.index_of_parent (hg.parent_of_mem hparent (List.mem_of_mem_take hn')),
    ← (List.take_prefix start _).idxOf_eq_of_mem hn', ← e,
    (List.take_prefix start _).idxOf_eq_of_mem hn]

namespace Insertable

variable (h : g.Insertable parent position child) (hg : g.Forest)

include h hg

theorem notMem_neighbors : child ∉ g.neighbors parent := by
  intro hm
  cases h.root.symm.trans (hg.parent_of_mem h.isTree_parent hm)

theorem fits : g.Fits parent ((g.neighbors parent).insertIdx position child) position child
    (some parent) (g.level parent + 1) := by
  have hperm := List.perm_insertIdx child (g.neighbors parent) h.position_le
  have htake : ((g.neighbors parent).insertIdx position child).take position =
      (g.neighbors parent).take position :=
    List.take_insertIdx_eq_take_of_le _ _ _ _ (Nat.le_refl _)
  have hmem : child ∈ (g.neighbors parent).insertIdx position child :=
    (List.mem_insertIdx h.position_le).2 (.inl rfl)
  exact {
    isTree_parent := h.isTree_parent
    isTree_child := h.isTree_child
    nodup := hperm.nodup_iff.2 (List.nodup_cons.2 ⟨h.notMem_neighbors hg, hg.nodup parent⟩)
    mem := fun n hn => by rw [List.mem_insertIdx h.position_le, or_iff_right hn]
    place := fun n hn => by
      refine ⟨?_, hg.index_of_mem_take h.isTree_parent htake hn⟩
      rintro rfl
      exact h.notMem_neighbors hg (List.mem_of_mem_take (htake ▸ hn))
    only := fun p hp => by cases h.root.symm.trans hp
    binary := fun hk => by
      rw [List.length_insertIdx_of_le_length h.position_le]
      exact h.room hk
    up := .inl ⟨rfl, hmem, rfl, h.ne.symm, fun hup =>
      h.notMem_ancestors (hg.mem_ancestors_iff.2 hup)⟩ }

theorem rearranged : Rearranged g (g.attach parent position child (g.level parent + 1)) parent
    ((g.neighbors parent).insertIdx position child) position child (some parent)
    (g.level parent + 1) :=
  rearranged_rearrange (lt_size_of_isTree h.isTree_parent) (lt_size_of_isTree h.isTree_child)
    (moves_under parent) (h.fits hg).nodup _ _

theorem forest : (g.attach parent position child (g.level parent + 1)).Forest :=
  (h.fits hg).forest hg (h.rearranged hg) nofun

end Insertable

namespace Forest

variable (hg : g.Forest) (hp : g.parent child = some parent) (hi : g.index child = some position)

include hg hp hi

theorem eraseIdx_eq_erase : (g.neighbors parent).eraseIdx position =
    (g.neighbors parent).erase child := by
  rw [hg.index_of_parent hp] at hi
  rw [← Option.some.inj hi, List.eraseIdx_idxOf_eq_erase]

theorem fits_release :
    g.Fits parent ((g.neighbors parent).eraseIdx position) position child none 0 := by
  have hparent := hg.isTree_parent hp
  have herase := hg.eraseIdx_eq_erase hp hi
  have hlt : position < (g.neighbors parent).length := by
    rw [hg.index_of_parent hp] at hi
    rw [← Option.some.inj hi]
    exact List.idxOf_lt_length_of_mem (hg.mem_neighbors hp)
  have htake : ((g.neighbors parent).eraseIdx position).take position =
      (g.neighbors parent).take position := by
    rw [List.eraseIdx_eq_take_drop_succ]
    exact List.take_left' (by simp; omega)
  have hgone : child ∉ (g.neighbors parent).eraseIdx position := by
    rw [herase]
    exact (hg.nodup parent).not_mem_erase
  exact {
    isTree_parent := hparent
    isTree_child := hg.isTree_of_parent hp
    nodup := (hg.nodup parent).eraseIdx position
    mem := fun n hn => by rw [herase, List.mem_erase_of_ne hn]
    place := fun n hn => by
      refine ⟨?_, hg.index_of_mem_take hparent htake hn⟩
      rintro rfl
      exact hgone (List.mem_of_mem_take hn)
    only := fun p hp' => Option.some.inj (hp'.symm.trans hp)
    binary := fun hk => Nat.le_trans (List.length_eraseIdx_le _ _) (hg.binary hk)
    up := .inr ⟨rfl, hgone, rfl⟩ }

theorem rearranged_release : Rearranged g (g.release parent position child) parent
    ((g.neighbors parent).eraseIdx position) position child none 0 :=
  rearranged_rearrange (lt_size_of_isTree (hg.isTree_parent hp))
    (lt_size_of_isTree (hg.isTree_of_parent hp)) moves_out (hg.fits_release hp hi).nodup _ _

theorem index_release : (g.release parent position child).index child = none := by
  have hf := hg.fits_release hp hi
  refine index_rearrange_child (lt_size_of_isTree hf.isTree_parent) moves_out hf.nodup _ _
    (fun _ => rfl) fun h => ?_
  exact (hf.notMem_of_up rfl).1 (List.mem_of_mem_drop h)

theorem release : (g.release parent position child).Forest :=
  (hg.fits_release hp hi).forest hg (hg.rearranged_release hp hi) fun _ => hg.index_release hp hi

end Forest

end Move

end GraphSelect.Graph
