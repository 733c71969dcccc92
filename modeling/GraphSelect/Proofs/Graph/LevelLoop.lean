import GraphSelect.Proofs.Graph.Built
import GraphSelect.Proofs.Traversal.Levels

/-!
# Setting levels in place

When a tree has been hung in or out, the levels of its nodes are set in place by a loop over a stack
that does not remember where it has been. The links are new by then and the levels still old. The
loop ends, and writes every node of the moved tree once, because no node hangs under two others and
the root of the tree hangs under none of its own nodes. So what is on the stack is always the rest of
a listing of the tree, and what has been written is its beginning.
-/
namespace GraphSelect.Graph

/-- The loop that sets levels in place. The last node on the stack is taken from it, its level is
written, and its children are put on the stack with the next level, until the stack is empty. A
number without a node would stop the loop before its end. The written levels are kept in order. -/
inductive LevelLoop : Graph → (stack writes : List (NodeId × Nat)) → Graph → Prop
  | done {g : Graph} : LevelLoop g [] [] g
  | round {g h : Graph} {stack writes : List (NodeId × Nat)} {id : NodeId} {level : Nat} {n : Node}
      (hn : g.get? id = some n)
      (hrest : LevelLoop (g.modify id fun n => { n with level })
        (stack ++ n.neighbors.map (·, level + 1)) writes h) :
      LevelLoop g (stack ++ [(id, level)]) ((id, level) :: writes) h

variable {g h h' : Graph} {root id n parent child : NodeId} {level l k i j : Nat}
  {stack writes writes' done done' : List (NodeId × Nat)}

namespace LevelLoop

theorem nil_iff : LevelLoop g [] writes h ↔ writes = [] ∧ h = g := by
  constructor
  · intro hloop
    generalize hs : ([] : List (NodeId × Nat)) = stack at hloop
    cases hloop with
    | done => exact ⟨rfl, rfl⟩
    | round => exact absurd hs.symm (List.append_ne_nil_of_right_ne_nil _ (List.cons_ne_nil _ _))
  · rintro ⟨rfl, rfl⟩
    exact .done

theorem concat_iff : LevelLoop g (stack ++ [(id, level)]) writes h ↔
    ∃ n rest, g.get? id = some n ∧ writes = (id, level) :: rest ∧
      LevelLoop (g.modify id fun n => { n with level }) (stack ++ n.neighbors.map (·, level + 1))
        rest h := by
  constructor
  · intro hloop
    generalize hs : stack ++ [(id, level)] = whole at hloop
    cases hloop with
    | done => exact absurd hs (List.append_ne_nil_of_right_ne_nil _ (List.cons_ne_nil _ _))
    | round hn hrest =>
      obtain ⟨rfl, he⟩ := List.append_inj' hs rfl
      cases he
      exact ⟨_, _, hn, rfl, hrest⟩
  · rintro ⟨n, rest, hn, rfl, hrest⟩
    exact .round hn hrest

theorem unique (hloop : LevelLoop g stack writes h) (hloop' : LevelLoop g stack writes' h') :
    writes' = writes ∧ h' = h := by
  induction hloop generalizing writes' with
  | done => exact nil_iff.1 hloop'
  | round hn _ ih =>
    obtain ⟨n', rest, hn', rfl, hrest⟩ := concat_iff.1 hloop'
    obtain rfl := Option.some.inj (hn.symm.trans hn')
    obtain ⟨rfl, rfl⟩ := ih hrest
    exact ⟨rfl, rfl⟩

theorem eq_foldl (hloop : LevelLoop g stack writes h) :
    h = writes.foldl (fun g p => g.modify p.1 fun n => { n with level := p.2 }) g := by
  induction hloop with
  | done => rfl
  | round _ _ ih => exact ih

end LevelLoop

theorem neighbors_modify_level (g : Graph) (id : NodeId) (level : Nat) (other : NodeId) :
    (g.modify id fun n => { n with level }).neighbors other = g.neighbors other := by
  rw [neighbors, neighbors, get?_modify]
  split
  · cases g.get? other <;> rfl
  · rfl

namespace Listing

/-- A complete listing holds the nodes below the root, each at as many levels below as there are links
on a way to it. -/
theorem mem_iff_way (hlist : Listing g root level done []) :
    (n, l) ∈ done ↔ ∃ k, g.Way root k n ∧ l = level + k := by
  constructor
  · intro hn
    -- The level of a listed node is above the one of the node it hangs under, so it goes down.
    induction l using Nat.strongRecOn generalizing n with
    | ind l ih =>
      rcases hlist.origin (List.mem_append_left [] hn) with ⟨rfl, rfl⟩ | ⟨m, j, hm, hlink, rfl⟩
      · exact ⟨0, .here, rfl⟩
      · obtain ⟨k, hway, rfl⟩ := ih j (Nat.lt_succ_self j) hm
        exact ⟨k + 1, hway.step hlink, rfl⟩
  · rintro ⟨k, hway, rfl⟩
    induction hway with
    | here => simpa using hlist.root_mem
    | step _ hlink ih => simpa [Nat.add_assoc] using hlist.closed ih hlink

theorem lookup_iff (hlist : Listing g root level done []) :
    done.reverse.lookup n = some l ↔ ∃ k, g.Way root k n ∧ l = level + k := by
  have hnodup := hlist.nodup
  rw [List.append_nil] at hnodup
  rw [lookup_eq_some_iff (by rwa [List.map_reverse, List.nodup_reverse]), List.mem_reverse,
    hlist.mem_iff_way]

/-- All ways from the root of a listed tree to a node are equally long. -/
theorem way_unique (hlist : Listing g root level done []) (hi : g.Way root i n)
    (hj : g.Way root j n) : i = j := by
  have hi' := hlist.lookup_iff.2 ⟨i, hi, rfl⟩
  have hj' := hlist.lookup_iff.2 ⟨j, hj, rfl⟩
  exact Nat.add_left_cancel (Option.some.inj (hi'.symm.trans hj'))

theorem distance_iff_way (hlist : Listing g root level done []) :
    g.Distance root n k ↔ g.Way root k n := by
  rw [distance_iff, and_iff_left_iff_imp]
  intro hk i hi hway
  exact Nat.ne_of_lt hi (hlist.way_unique hway hk)

/-- The order of a complete listing does not matter for what is written. -/
theorem foldl_eq (hlist : Listing g root level done []) (hlist' : Listing g root level done' []) :
    done'.foldl (fun g p => g.modify p.1 fun n => { n with level := p.2 }) g =
      done.foldl (fun g p => g.modify p.1 fun n => { n with level := p.2 }) g := by
  have hlookup : ∀ id, done'.reverse.lookup id = done.reverse.lookup id := by
    intro id
    ext l
    rw [hlist.lookup_iff, hlist'.lookup_iff]
  ext1 id
  rw [get?_foldl_modify (fun l n => { n with level := l }) (fun _ _ _ => rfl),
    get?_foldl_modify (fun l n => { n with level := l }) (fun _ _ _ => rfl), hlookup]

/-- From every point on the loop goes on to the end of a listing. The graph of this point differs
from that of the start in levels only. -/
theorem exists_levelLoop (hg : g.Linked) (hroot : g.isTree root) (htop : g.TopOf root)
    (hlist : Listing g root level done stack) (hsize : h.size = g.size)
    (hlinks : ∀ id, h.neighbors id = g.neighbors id) :
    ∃ writes h', LevelLoop h stack writes h' ∧ Listing g root level (done ++ writes) [] := by
  induction hs : g.size - done.length generalizing done stack h with
  | zero =>
    have hlen := hlist.length_le hg hroot
    obtain rfl : stack = [] := List.length_eq_zero_iff.1 (by omega)
    exact ⟨[], h, .done, by rwa [List.append_nil]⟩
  | succ steps ih =>
    rcases List.eq_nil_or_concat' stack with rfl | ⟨stack, ⟨id, l⟩, rfl⟩
    · exact ⟨[], h, .done, by rwa [List.append_nil]⟩
    · have hnext : Listing g root level done ((id, l) :: stack) :=
        hlist.perm (List.perm_append_singleton (id, l) stack)
      have hid : id < h.size := by
        have hreached : g.Reaches root id := hnext.reached (l := l) (by simp)
        rw [hsize]
        exact lt_size_of_isTree (hg.isTree_of_reaches hroot hreached)
      obtain ⟨n, hn⟩ := lt_size_iff.1 hid
      have hstep := (hnext.step hg hroot htop).perm List.perm_append_comm
      rw [← hlinks id, neighbors_eq hn] at hstep
      obtain ⟨writes, h', hloop, hend⟩ :=
        ih hstep (by rw [size_modify, hsize])
          (fun other => (neighbors_modify_level h id l other).trans (hlinks other))
          (by rw [List.length_append, List.length_singleton]; omega)
      rw [List.append_assoc] at hend
      exact ⟨(id, l) :: writes, h', .round hn hloop, hend⟩

end Listing

/-- `h` is `g` with the levels below `root` set anew, from `level` on, by the loop: it ends, in one
way, has written every node of the subtree once and with its distance from the root, and has changed
nothing else. -/
structure LevelsSet (g : Graph) (root : NodeId) (level : Nat) (h : Graph) : Prop where
  loop : ∃ writes, LevelLoop g [(root, level)] writes h ∧
    (∀ writes' h', LevelLoop g [(root, level)] writes' h' → writes' = writes ∧ h' = h) ∧
    (writes.map Prod.fst).Nodup ∧
    (∀ n, n ∈ writes.map Prod.fst ↔ g.Reaches root n) ∧
    ∀ n l, (n, l) ∈ writes ↔ ∃ k, g.Distance root n k ∧ l = level + k
  below : ∀ n, g.Reaches root n → ∃ k, g.Distance root n k ∧
    h.get? n = (g.get? n).map fun node => { node with level := level + k }
  elsewhere : ∀ n, ¬ g.Reaches root n → h.get? n = g.get? n

theorem exists_way_of_reaches (hreach : g.Reaches root n) : ∃ k, g.Way root k n := by
  induction hreach with
  | refl => exact ⟨0, .here⟩
  | tail _ hlink ih =>
    obtain ⟨k, hway⟩ := ih
    exact ⟨k + 1, hway.step hlink⟩

theorem levelsSet (hg : g.Linked) (hroot : g.isTree root) (htop : g.TopOf root) (level : Nat) :
    LevelsSet g root level (g.setSubtreeLevel root level) := by
  have hlist := listing_subtreeLevels hg hroot htop level
  obtain ⟨writes, h, hloop, hwrites⟩ :=
    (Listing.start g root level).exists_levelLoop hg hroot htop rfl fun _ => rfl
  rw [List.nil_append] at hwrites
  have hset : h = g.setSubtreeLevel root level := hloop.eq_foldl.trans (hlist.foldl_eq hwrites)
  subst hset
  have hkeys := hwrites.nodup
  rw [List.append_nil] at hkeys
  refine ⟨⟨writes, hloop, fun writes' h' hloop' => hloop.unique hloop', hkeys, fun n => ?_,
    fun n l => ?_⟩, fun n hn => ?_, fun n hn => ?_⟩
  · constructor
    · intro hn
      obtain ⟨⟨n, l⟩, hmem, rfl⟩ := List.mem_map.1 hn
      exact hwrites.reached (List.mem_append_left [] hmem)
    · intro hn
      obtain ⟨k, hway⟩ := exists_way_of_reaches hn
      exact List.mem_map.2 ⟨_, hwrites.mem_iff_way.2 ⟨k, hway, rfl⟩, rfl⟩
  · simp only [hwrites.distance_iff_way, hwrites.mem_iff_way]
  · obtain ⟨k, hway⟩ := exists_way_of_reaches hn
    refine ⟨k, hlist.distance_iff_way.2 hway, ?_⟩
    rw [get?_setSubtreeLevel, hlist.lookup_iff.2 ⟨k, hway, rfl⟩]
    rfl
  · have hnone : (g.subtreeLevels root level).reverse.lookup n = none := by
      rw [Option.eq_none_iff_forall_ne_some]
      intro l hl
      obtain ⟨k, hway, rfl⟩ := hlist.lookup_iff.1 hl
      exact hn (hlist.reached (List.mem_append_left [] (hlist.mem_iff_way.2 ⟨k, hway, rfl⟩)))
    rw [get?_setSubtreeLevel, hnone]
    exact Option.map_id_apply

/-- A graph with rearranged children in which the levels of the moved tree are still the old ones. -/
def relink (g : Graph) (parent : NodeId) (change : List NodeId → List NodeId) (start : Nat)
    (child : NodeId) (move : Node → Node) : Graph :=
  ((g.modify parent fun n => { n with neighbors := change n.neighbors }).modify child move).reindex
    parent start

theorem isTree_setSubtreeLevel (g : Graph) (root : NodeId) (level : Nat) (id : NodeId) :
    (g.setSubtreeLevel root level).isTree id = g.isTree id := by
  rw [isTree, isTree, kind?_setSubtreeLevel]

theorem children_setSubtreeLevel (g : Graph) (root : NodeId) (level : Nat) (id : NodeId) :
    (g.setSubtreeLevel root level).children id = g.children id := by
  rw [children_eq, children_eq, isTree_setSubtreeLevel, neighbors_setSubtreeLevel]

theorem reaches_setSubtreeLevel (g : Graph) (root : NodeId) (level : Nat) :
    (g.setSubtreeLevel root level).Reaches = g.Reaches := by
  have hleads : (g.setSubtreeLevel root level).Leads = g.Leads := by
    funext m n
    rw [Leads, Leads, neighbors_setSubtreeLevel]
  unfold Reaches
  rw [hleads]

theorem linked_of_setSubtreeLevel (hg : (g.setSubtreeLevel root level).Linked) : g.Linked where
  neighbor_lt {id n} hn := by
    have hlt := @hg.neighbor_lt id n
    rw [neighbors_setSubtreeLevel, size_setSubtreeLevel] at hlt
    exact hlt hn
  nodup id := by
    have hnodup := hg.nodup id
    rwa [neighbors_setSubtreeLevel] at hnodup
  child {id n} hid hn := by
    have hchild := @hg.child id n
    rw [isTree_setSubtreeLevel, isTree_setSubtreeLevel, neighbors_setSubtreeLevel,
      parent_setSubtreeLevel, index_setSubtreeLevel] at hchild
    exact hchild hid hn
  parent {id p} hp := by
    have hparent := @hg.parent id p
    rw [parent_setSubtreeLevel, children_setSubtreeLevel] at hparent
    exact hparent hp
  index {id} hp := by
    have hindex := @hg.index id
    rw [parent_setSubtreeLevel, index_setSubtreeLevel] at hindex
    exact hindex hp
  binary {id} hk := by
    have hbinary := @hg.binary id
    rw [kind?_setSubtreeLevel, neighbors_setSubtreeLevel] at hbinary
    exact hbinary hk

theorem topOf_of_setSubtreeLevel {top : NodeId} (htop : (g.setSubtreeLevel root level).TopOf top) :
    g.TopOf top := by
  intro n hn
  have hnot := htop n
  rw [reaches_setSubtreeLevel, neighbors_setSubtreeLevel] at hnot
  exact hnot hn

/-- A rearrangement that fits sets levels exactly, in the graph with the new links. -/
theorem Fits.levelsSet {children : List NodeId} {change : List NodeId → List NodeId} {start : Nat}
    {up : Option NodeId} {move : Node → Node}
    (hf : g.Fits parent children start child up level) (hg : g.Forest)
    (hr : Rearranged g (g.rearrange parent change start child move level) parent children start
      child up level)
    (hi : up = none → (g.rearrange parent change start child move level).index child = none) :
    LevelsSet (g.relink parent change start child move) child level
      (g.rearrange parent change start child move level) := by
  have hlinked := linked_of_setSubtreeLevel (g := g.relink parent change start child move)
    (hf.linked hg hr hi)
  have htop := topOf_of_setSubtreeLevel (g := g.relink parent change start child move)
    (hf.topOf hg hr)
  have htree := hf.isTree_child
  rw [← isTree_eq hr] at htree
  exact Graph.levelsSet hlinked
    ((isTree_setSubtreeLevel (g.relink parent change start child move) child level child).symm.trans
      htree) htop level

/-- Whenever a tree is hung in or out, the levels of its nodes are set anew in the graph with the new
links: the loop over them ends, writes each node of the tree once, one level below its parent, and
changes nothing else. -/
theorem moves_set_levels (hg : g.Built) :
    (∀ parent position child h, g.insertChild parent position child = .ok h →
      LevelsSet
        (g.relink parent (·.insertIdx position child) position child
          fun n => { n with parent := some parent })
        child (g.level parent + 1) h) ∧
    ∀ parent child h, g.removeChild parent child = .ok h →
      ∃ position, g.index child = some position ∧
        LevelsSet
          (g.relink parent (·.eraseIdx position) position child
            fun n => { n with parent := none, index := none })
          child 0 h := by
  have hforest := hg.forest
  refine ⟨fun parent position child h hinsert => ?_, fun parent child h hremove => ?_⟩
  · obtain ⟨hins, rfl⟩ := insertChild_eq_ok_iff.1 hinsert
    exact (hins.fits hforest).levelsSet hforest (hins.rearranged hforest) nofun
  · obtain ⟨-, hp, position, hi, rfl⟩ := removeChild_eq_ok_iff.1 hremove
    exact ⟨position, hi, (hforest.fits_release hp hi).levelsSet hforest
      (hforest.rearranged_release hp hi) fun _ => hforest.index_release hp hi⟩

private def orchard : Graph :=
  .build [.add "tree" .tree, .add "first" .tree, .add "second" .binary, .add "leaf" .tree,
    .addChild 0 1, .addChild 0 2, .addChild 1 3, .add "ground" .tree]

/-- When the first child is taken out, it and the leaf are written and its sibling is not. When the
whole tree is hung under the other root, the loop takes the last child first. -/
theorem moves_set_levels_orchard : orchard.Built ∧
    (∃ h, orchard.removeChild 0 1 = .ok h ∧ h.level 3 = 1 ∧
      ¬ (orchard.relink 0 (·.eraseIdx 0) 0 1
        fun n => { n with parent := none, index := none }).Reaches 1 2 ∧
      (h.get? 2).map Node.level = some 1 ∧ (h.get? 2).bind Node.index = some 0) ∧
    ∃ h, orchard.insertChild 4 0 0 = .ok h ∧
      ∀ writes h', LevelLoop
        (orchard.relink 4 (·.insertIdx 0 0) 0 0 fun n => { n with parent := some 4 })
          [(0, 1)] writes h' → writes = [(0, 1), (2, 2), (1, 2), (3, 3)] ∧ h' = h := by
  have hbuilt : orchard.Built := ⟨_, rfl⟩
  obtain ⟨hinserts, hremoves⟩ := moves_set_levels hbuilt
  refine ⟨hbuilt, ⟨_, rfl, by decide, ?_⟩, _, rfl, ?_⟩
  · obtain ⟨position, hindex, hset⟩ := hremoves 0 1 _ rfl
    obtain rfl : position = 0 := Option.some.inj (hindex.symm.trans (by decide))
    obtain ⟨writes, -, hunique, -, hreach, -⟩ := hset.loop
    obtain ⟨rfl, -⟩ := hunique [(1, 0), (3, 1)] _
      (@LevelLoop.round _ _ [] _ 1 0 _ rfl (@LevelLoop.round _ _ [] _ 3 1 _ rfl .done))
    have hnot : ¬ (orchard.relink 0 (·.eraseIdx 0) 0 1
        fun n => { n with parent := none, index := none }).Reaches 1 2 :=
      mt (hreach 2).2 (by decide)
    rw [hset.elsewhere 2 hnot]
    exact ⟨hnot, by decide, by decide⟩
  · obtain ⟨writes, -, hunique, -⟩ := (hinserts 4 0 0 _ rfl).loop
    obtain ⟨rfl, -⟩ := hunique [(0, 1), (2, 2), (1, 2), (3, 3)] _
      (@LevelLoop.round _ _ [] _ 0 1 _ rfl (@LevelLoop.round _ _ [(1, 2)] _ 2 2 _ rfl
        (@LevelLoop.round _ _ [] _ 1 2 _ rfl (@LevelLoop.round _ _ [] _ 3 3 _ rfl .done))))
    exact hunique

end GraphSelect.Graph
