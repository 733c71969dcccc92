import GraphSelect.Proofs.Graph.InPlace
import GraphSelect.Proofs.Graph.Labels

/-!
# What moving a tree changes

Hanging a tree in or out changes the children of one node and the parent of another. The children
of the one are numbered afresh, and the tree under the other moves up or down by the same number of
levels everywhere. Nothing else in the graph changes. Such a move is refused exactly when one of the
rules for trees forbids it, and then it changes nothing at all.
-/
namespace GraphSelect.Graph

/-- `h` differs from `g` in that `children` are the children of `parent`, `child` hangs under `up`
and stands at `level`, with all nodes below it moved by as many levels. -/
structure Moved (g h : Graph) (parent : NodeId) (children : List NodeId) (child : NodeId)
    (up : Option NodeId) (level : Nat) : Prop where
  size : h.size = g.size
  label? : ∀ id, h.label? id = g.label? id
  neighbors : ∀ id, h.neighbors id = if id = parent then children else g.neighbors id
  parent : ∀ id, h.parent id = if id = child then up else g.parent id
  index : ∀ id, h.index id =
    if id ∈ children then some (children.idxOf id) else if id = child then none else g.index id
  level_below : ∀ id, g.Reaches child id → h.level id + g.level child = g.level id + level
  level : ∀ id, ¬ g.Reaches child id → h.level id = g.level id

variable {g h : Graph} {parent child source id n : NodeId} {children : List NodeId}
  {position start level : Nat} {up : Option NodeId}

/-- The links of a node that cannot be reached do not matter for what can. -/
theorem reaches_congr (hlinks : ∀ m, m ≠ parent → h.neighbors m = g.neighbors m)
    (hparent : ¬ g.Reaches source parent) : h.Reaches source n ↔ g.Reaches source n := by
  have hleads : ∀ {m n}, g.Reaches source m → (h.Leads m n ↔ g.Leads m n) := by
    intro m n hm
    rw [Leads, Leads, hlinks]
    rintro rfl
    exact hparent hm
  constructor
  · intro hreach
    induction hreach with
    | refl => exact .refl
    | tail _ hlink ih => exact ih.tail ((hleads ih).1 hlink)
  · intro hreach
    induction hreach with
    | refl => exact .refl
    | tail hm hlink ih => exact ih.tail ((hleads hm).2 hlink)

namespace Fits

variable (hf : g.Fits parent children start child up level) (hg : g.Forest)
  (hr : Rearranged g h parent children start child up level)
  (hi : up = none → h.index child = none)

include hf hg hr hi

theorem index_eq (id : NodeId) :
    h.index id =
      if id ∈ children then some (children.idxOf id)
      else if id = child then none
      else g.index id := by
  split
  · next hmem =>
    have hmem' : id ∈ h.neighbors parent := by rwa [hr.neighbors, if_pos rfl]
    have htree : h.isTree parent := isTree_eq hr parent ▸ hf.isTree_parent
    rw [((hf.forest hg hr hi).child htree hmem').2.2, hr.neighbors, if_pos rfl]
  · next hmem =>
    split
    · next hc =>
      subst hc
      rcases hf.up with ⟨-, hc, -⟩ | ⟨hup, -⟩
      · exact absurd hc hmem
      · exact hi hup
    · next hc => exact hr.index_of_notMem id hc fun hd => hmem (List.mem_of_mem_drop hd)

/-- From a moved node downwards the levels grow as before. -/
theorem level_below (hbelow : ¬ g.Reaches child parent) (hid : g.Reaches child id) :
    h.level id + g.level child = g.level id + level := by
  induction hid with
  | refl => rw [level_moved hg hf hr hi, Nat.add_comm]
  | @tail m n hm hlink ih =>
    have hmtree := hg.isTree_of_reaches hf.isTree_child hm
    have hlink' : n ∈ h.neighbors m := by
      rw [hr.neighbors, if_neg]
      · exact hlink
      · rintro rfl
        exact hbelow hm
    have hgn := hg.level_child (hg.parent_of_mem hmtree hlink)
    have hhn := (hf.forest hg hr hi).level_child (parent_of_mem hg hf hr hmtree hlink')
    omega

theorem level_of_not_reaches (hbelow : ¬ g.Reaches child parent) (hid : ¬ g.Reaches child id) :
    h.level id = g.level id := by
  by_cases hlt : id < g.size
  · refine level_of_notMem hg hf hr hi hlt fun l hl => hid ?_
    have hreach : h.Reaches child id :=
      (listing hg hf hr hi).reached (List.mem_append_left [] hl)
    exact (reaches_congr (fun m hm => by rw [hr.neighbors, if_neg hm]) hbelow).1 hreach
  · rw [(unknown_eq hlt).2.2.2, (unknown_eq (hr.size ▸ hlt)).2.2.2]

/-- A rearrangement of a forest moves a tree when the node with changed children is not in it. -/
theorem moved (hlabel : ∀ id, h.label? id = g.label? id) (hbelow : ¬ g.Reaches child parent) :
    Moved g h parent children child up level where
  size := hr.size
  label? := hlabel
  neighbors := hr.neighbors
  parent := hr.parent
  index := hf.index_eq hg hr hi
  level_below _ := hf.level_below hg hr hi hbelow
  level _ := hf.level_of_not_reaches hg hr hi hbelow

end Fits

theorem Insertable.moved (hins : g.Insertable parent position child) (hg : g.Forest) :
    Moved g (g.attach parent position child (g.level parent + 1)) parent
      ((g.neighbors parent).insertIdx position child) child (some parent)
      (g.level parent + 1) := by
  refine (hins.fits hg).moved hg (hins.rearranged hg) nofun (label?_attach g _ _ _ _)
    fun hreach => ?_
  rcases Relation.reflTransGen_iff_eq_or_transGen.1 (hg.up_of_reaches hins.isTree_child hreach)
    with heq | hup
  · exact hins.ne heq.symm
  · exact hins.notMem_ancestors (hg.mem_ancestors_iff.2 hup)

theorem Forest.moved_release (hg : g.Forest) (hp : g.parent child = some parent)
    (hi : g.index child = some position) :
    Moved g (g.release parent position child) parent ((g.neighbors parent).erase child) child none
      0 := by
  rw [← hg.eraseIdx_eq_erase hp hi]
  refine (hg.fits_release hp hi).moved hg (hg.rearranged_release hp hi)
    (fun _ => hg.index_release hp hi) (label?_release g _ _ _) fun hreach => ?_
  have hback := hg.up_of_reaches (hg.isTree_of_parent hp) hreach
  exact hg.acyclic child (.head' hp hback)

namespace Forest

variable (hg : g.Forest)

include hg

/-- In a forest a root can be hung in unless a rule for trees forbids it. -/
theorem exists_insertChild_iff :
    (∃ h, g.insertChild parent position child = .ok h) ↔
      parent < g.size ∧ child < g.size ∧ g.isTree parent ∧ g.isTree child ∧ parent ≠ child ∧
        g.parent child = none ∧
        ¬ (g.kind? parent = some .binary ∧ (g.children parent).length = 2) ∧
        position ≤ (g.children parent).length ∧ ¬ Relation.TransGen g.Up parent child := by
  simp only [insertChild_eq_ok_iff, exists_and_left, exists_eq, and_true]
  constructor
  · intro h
    rw [children_of_isTree h.isTree_parent]
    refine ⟨lt_size_of_isTree h.isTree_parent, lt_size_of_isTree h.isTree_child, h.isTree_parent,
      h.isTree_child, h.ne, h.root, fun ⟨hk, hfull⟩ => ?_, h.position_le,
      mt hg.mem_ancestors_iff.2 h.notMem_ancestors⟩
    exact Nat.ne_of_lt (h.room hk) hfull
  · rintro ⟨-, -, hparent, hchild, hne, hroot, hroom, hpos, habove⟩
    rw [children_of_isTree hparent] at hroom hpos
    refine ⟨hparent, hchild, hne, hroot, fun hk => ?_, hpos, mt hg.mem_ancestors_iff.1 habove⟩
    exact Nat.lt_of_le_of_ne (hg.binary hk) fun hfull => hroom ⟨hk, hfull⟩

theorem moved_insertChild (hinsert : g.insertChild parent position child = .ok h) :
    Moved g h parent ((g.children parent).insertIdx position child) child (some parent)
      (g.level parent + 1) := by
  obtain ⟨hins, rfl⟩ := insertChild_eq_ok_iff.1 hinsert
  rw [children_of_isTree hins.isTree_parent]
  exact hins.moved hg

theorem exists_removeChild_iff :
    (∃ h, g.removeChild parent child = .ok h) ↔
      parent < g.size ∧ child < g.size ∧ g.parent child = some parent := by
  constructor
  · rintro ⟨h, hremove⟩
    obtain ⟨hlt, hp, -⟩ := removeChild_eq_ok_iff.1 hremove
    exact ⟨hlt, lt_size_of_isTree (hg.isTree_of_parent hp), hp⟩
  · rintro ⟨hlt, -, hp⟩
    exact ⟨_, removeChild_eq_ok_iff.2 ⟨hlt, hp, _, hg.index_of_parent hp, rfl⟩⟩

theorem moved_removeChild (hremove : g.removeChild parent child = .ok h) :
    Moved g h parent ((g.children parent).erase child) child none 0 := by
  obtain ⟨-, hp, position, hi, rfl⟩ := removeChild_eq_ok_iff.1 hremove
  rw [children_of_isTree (hg.isTree_parent hp)]
  exact hg.moved_release hp hi

theorem exists_detach_iff : (∃ h, g.detach id = .ok h) ↔ id < g.size := by
  simp only [detach_eq_ok_iff, exists_and_left, and_iff_left_iff_imp]
  intro hid
  cases hp : g.parent id with
  | none => exact ⟨g, .inl ⟨rfl, rfl⟩⟩
  | some parent =>
    obtain ⟨h, hremove⟩ :=
      hg.exists_removeChild_iff.2 ⟨lt_size_of_isTree (hg.isTree_parent hp), hid, hp⟩
    exact ⟨h, .inr ⟨parent, rfl, hremove⟩⟩

theorem moved_detach (hdetach : g.detach id = .ok h) :
    (g.parent id = none ∧ h = g) ∨ ∃ parent, g.parent id = some parent ∧
      Moved g h parent ((g.children parent).erase id) id none 0 := by
  obtain ⟨-, hroot | ⟨parent, hp, hremove⟩⟩ := detach_eq_ok_iff.1 hdetach
  · exact .inl hroot
  · exact .inr ⟨parent, hp, hg.moved_removeChild hremove⟩

end Forest

/-- Each of the three moves succeeds exactly when the rules for trees allow it, and then changes
where the moved tree hangs and nothing else. A call that is refused leaves the whole graph as it
was, also when it is performed in place. -/
theorem moves_exact (hg : g.Built) :
    (∀ parent position child,
      ((∃ h, g.insertChild parent position child = .ok h) ↔
        parent < g.size ∧ child < g.size ∧ g.isTree parent ∧ g.isTree child ∧ parent ≠ child ∧
          g.parent child = none ∧
          ¬ (g.kind? parent = some .binary ∧ (g.children parent).length = 2) ∧
          position ≤ (g.children parent).length ∧ ¬ Relation.TransGen g.Up parent child) ∧
      ∀ h, g.insertChild parent position child = .ok h →
        Moved g h parent ((g.children parent).insertIdx position child) child (some parent)
          (g.level parent + 1)) ∧
    (∀ parent child,
      ((∃ h, g.removeChild parent child = .ok h) ↔
        parent < g.size ∧ child < g.size ∧ g.parent child = some parent) ∧
      ∀ h, g.removeChild parent child = .ok h →
        Moved g h parent ((g.children parent).erase child) child none 0) ∧
    (∀ id,
      ((∃ h, g.detach id = .ok h) ↔ id < g.size) ∧
      ∀ h, g.detach id = .ok h →
        (g.parent id = none ∧ h = g) ∨ ∃ parent, g.parent id = some parent ∧
          Moved g h parent ((g.children parent).erase id) id none 0) ∧
    ∀ e : Edit,
      (∀ h, e.run g = .ok h → e.perform.runOn g = (.ok (), h)) ∧
      ∀ err, e.run g = .error err → e.perform.runOn g = (.error err, g) ∧ e.apply g = g := by
  have hforest := hg.forest
  refine ⟨fun parent position child => ?_, fun parent child => ?_, fun id => ?_, fun e => ?_⟩
  · exact ⟨hforest.exists_insertChild_iff, fun h hinsert => hforest.moved_insertChild hinsert⟩
  · exact ⟨hforest.exists_removeChild_iff, fun h hremove => hforest.moved_removeChild hremove⟩
  · exact ⟨hforest.exists_detach_iff, fun h hdetach => hforest.moved_detach hdetach⟩
  · refine ⟨fun h hrun => InPlace.runOn_perform_of_ok hrun, fun err hrun => ?_⟩
    exact ⟨InPlace.runOn_perform_of_error hrun, by rw [Edit.apply, hrun]⟩

private def family : Graph :=
  .build [.add "root" .tree, .add "left" .tree, .add "right" .tree, .addChild 0 1, .addChild 0 2,
    .add "full" .binary, .add "a" .binary, .add "b" .binary, .addChild 3 4, .addChild 3 5]

/-- The full binary tree is hung between the two children, and its nodes go down with it. It takes
no further child itself. -/
theorem moves_exact_family : Built family ∧
    (∃ h, family.insertChild 0 1 3 = .ok h ∧ h.neighbors 0 = [1, 3, 2] ∧ h.index 2 = some 2 ∧
      h.level 5 = 2) ∧
    (¬ ∃ h, family.insertChild 3 0 0 = .ok h) ∧
    (Edit.insertChild 3 0 0).perform.runOn family =
      (.error (.contract (.tooManyChildren 3 2 2)), family) := by
  have hbuilt : Built family := ⟨_, rfl⟩
  obtain ⟨hinsert, -, -, hcalls⟩ := moves_exact hbuilt
  obtain ⟨h, hrun⟩ : ∃ h, family.insertChild 0 1 3 = .ok h := ⟨_, rfl⟩
  have hmoved := (hinsert 0 1 3).2 h hrun
  refine ⟨hbuilt, ⟨h, hrun, ?_, ?_, ?_⟩, fun hfull => ?_, ?_⟩
  · rw [hmoved.neighbors]
    decide
  · rw [hmoved.index]
    decide
  · have hreach : family.Reaches 3 5 := .single (by decide : 5 ∈ family.neighbors 3)
    have hlevel := hmoved.level_below 5 hreach
    rwa [show family.level 3 = 0 by decide, show family.level 5 = 1 by decide,
      show family.level 0 = 0 by decide] at hlevel
  · exact ((hinsert 3 0 0).1.1 hfull).2.2.2.2.2.2.1 (by decide)
  · exact ((hcalls (.insertChild 3 0 0)).2 _ rfl).1

end GraphSelect.Graph
