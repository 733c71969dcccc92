import GraphSelect.Proofs.Graph.Edits

/-!
# Labels and growing graphs

A node holds a name, a kind and attributes, which are its label, and stands somewhere. Moving trees
changes where nodes stand and no label. A root of a tree can be hung behind the children of another
root unless these are two already and the other root is binary, and then only the links of the two
change. So a graph to which trees are added under one node grows: nothing else about its former
nodes changes.
-/
namespace GraphSelect

structure Label where
  name : String
  kind : Kind
  attributes : Attributes
  deriving DecidableEq, Repr

def Node.label (n : Node) : Label := ⟨n.name, n.kind, n.attributes⟩

namespace Graph

def label? (g : Graph) (id : NodeId) : Option Label := (g.get? id).map Node.label

variable {g h : Graph} {parent child id : NodeId} {l : Label}

theorem kind?_eq_map_label? (g : Graph) (id : NodeId) :
    g.kind? id = (g.label? id).map Label.kind := by
  rw [label?, Option.map_map]
  rfl

theorem kind?_eq_of_label? (hl : g.label? id = some l) : g.kind? id = some l.kind := by
  rw [kind?_eq_map_label?, hl]
  rfl

theorem isTree_of_label? (hl : g.label? id = some l) (hk : l.kind.isTree) : g.isTree id := by
  rw [isTree, kind?_eq_of_label? hl]
  exact hk

theorem label?_modify {f : Node → Node} (hf : ∀ n, (f n).label = n.label) (g : Graph)
    (id other : NodeId) : (g.modify id f).label? other = g.label? other := by
  rw [label?, label?, get?_modify]
  split
  · cases g.get? other with
    | none => rfl
    | some n => exact congrArg some (hf n)
  · rfl

theorem label?_foldl_modify {α : Type} {set : α → Node → Node}
    (hset : ∀ a n, (set a n).label = n.label) (g : Graph) (changes : List (NodeId × α))
    (id : NodeId) :
    (changes.foldl (fun g p => g.modify p.1 (set p.2)) g).label? id = g.label? id := by
  induction changes generalizing g with
  | nil => rfl
  | cons p rest ih => rw [List.foldl_cons, ih, label?_modify (hset p.2)]

theorem label?_rearrange {move : Node → Node} (hmove : ∀ n, (move n).label = n.label) (g : Graph)
    (parent : NodeId) (change : List NodeId → List NodeId) (start : Nat) (child : NodeId)
    (level : Nat) (id : NodeId) :
    (g.rearrange parent change start child move level).label? id = g.label? id := by
  have hlevel : ∀ (k : Nat) (n : Node), ({ n with level := k } : Node).label = n.label :=
    fun _ _ => rfl
  have hindex : ∀ (i : Nat) (n : Node), ({ n with index := some i } : Node).label = n.label :=
    fun _ _ => rfl
  have hlinks : ∀ n : Node, ({ n with neighbors := change n.neighbors } : Node).label = n.label :=
    fun _ => rfl
  rw [rearrange, setSubtreeLevel, label?_foldl_modify hlevel, reindex, numberFrom_eq_foldl,
    label?_foldl_modify hindex, label?_modify hmove, label?_modify hlinks]

theorem label?_attach (g : Graph) (parent : NodeId) (position : Nat) (child : NodeId) (level : Nat)
    (id : NodeId) : (g.attach parent position child level).label? id = g.label? id := by
  have hmove : ∀ n : Node, ({ n with parent := some parent } : Node).label = n.label :=
    fun _ => rfl
  exact label?_rearrange hmove g parent _ position child level id

theorem label?_release (g : Graph) (parent : NodeId) (position : Nat) (child id : NodeId) :
    (g.release parent position child).label? id = g.label? id := by
  have hmove : ∀ n : Node, ({ n with parent := none, index := none } : Node).label = n.label :=
    fun _ => rfl
  exact label?_rearrange hmove g parent _ position child 0 id

/-- `h` differs from `g` in that `child` hangs under `parent` behind its other children. -/
structure Appended (g h : Graph) (parent child : NodeId) : Prop where
  size : h.size = g.size
  label? : ∀ id, h.label? id = g.label? id
  neighbors : ∀ id, h.neighbors id =
    if id = parent then g.neighbors parent ++ [child] else g.neighbors id
  parent : ∀ id, h.parent id = if id = child then some parent else g.parent id

theorem exists_addChild (hg : g.Forest) (hparent : g.isTree parent) (hchild : g.isTree child)
    (hne : parent ≠ child) (hroot : g.parent child = none) (htop : g.parent parent = none)
    (hroom : g.kind? parent = some .binary → (g.neighbors parent).length < 2) :
    ∃ h, g.addChild parent child = .ok h ∧ Appended g h parent child := by
  have habove : child ∉ g.ancestors parent := by
    intro hmem
    obtain ⟨p, hp, -⟩ := Relation.TransGen.head'_iff.1 (hg.mem_ancestors_iff.1 hmem)
    rw [Up, htop] at hp
    cases hp
  have hinsert : g.Insertable parent (g.neighbors parent).length child :=
    ⟨hparent, hchild, hne, hroot, hroom, Nat.le_refl _, habove⟩
  have hr := hinsert.rearranged hg
  rw [List.insertIdx_length_self] at hr
  refine ⟨_, ?_, hr.size, label?_attach g parent _ child _, hr.neighbors, hr.parent⟩
  obtain ⟨p, hp⟩ := lt_size_iff.1 (lt_size_of_isTree hparent)
  rw [addChild, find_bind_eq_ok_iff]
  exact ⟨p, hp, insertChild_eq_ok_iff.2 ⟨neighbors_eq hp ▸ hinsert, by rw [neighbors_eq hp]⟩⟩

theorem addChild_of_full (hparent : g.kind? parent = some .binary) (hchild : g.isTree child)
    (hne : parent ≠ child) (hroot : g.parent child = none)
    (hfull : 2 ≤ (g.neighbors parent).length) :
    g.addChild parent child =
      .error (.contract (.tooManyChildren parent (g.neighbors parent).length 2)) := by
  obtain ⟨p, hp, hk⟩ := Option.map_eq_some_iff.1 hparent
  obtain ⟨c, hc, hckind⟩ := isTree_iff.1 hchild
  rw [neighbors_eq hp] at hfull ⊢
  rw [parent_eq hc] at hroot
  simp only [addChild, insertChild, find, hp, hc, bind, Except.bind, hckind, hne, hroot, hk,
    Kind.maxChildren]
  simp [hfull, Kind.isTree, throw, throwThe, MonadExceptOf.throw]

/-- `h` has the nodes of `g` and further ones behind them. Of the former nodes none but `parent` has
other links than before, and none has another parent. -/
structure Grows (g h : Graph) (parent : NodeId) : Prop where
  size_le : g.size ≤ h.size
  label? : ∀ id, id < g.size → h.label? id = g.label? id
  neighbors : ∀ id, id < g.size → id ≠ parent → h.neighbors id = g.neighbors id
  parent : ∀ id, id < g.size → h.parent id = g.parent id

theorem Grows.trans {k : Graph} (hgh : g.Grows h parent) (hhk : h.Grows k parent) :
    g.Grows k parent where
  size_le := Nat.le_trans hgh.size_le hhk.size_le
  label? id hid := by rw [hhk.label? id (Nat.lt_of_lt_of_le hid hgh.size_le), hgh.label? id hid]
  parent id hid := by rw [hhk.parent id (Nat.lt_of_lt_of_le hid hgh.size_le), hgh.parent id hid]
  neighbors id hid hne := by
    rw [hhk.neighbors id (Nat.lt_of_lt_of_le hid hgh.size_le) hne, hgh.neighbors id hid hne]

theorem Grows.kind? (hgh : g.Grows h parent) (hid : id < g.size) : h.kind? id = g.kind? id := by
  rw [kind?_eq_map_label?, kind?_eq_map_label?, hgh.label? id hid]

/-- Links from new nodes only leave all former nodes alone. -/
theorem Grows.of_new (hgh : g.Grows h g.size) (parent : NodeId) : g.Grows h parent where
  size_le := hgh.size_le
  label? := hgh.label?
  parent := hgh.parent
  neighbors id hid _ := hgh.neighbors id hid (Nat.ne_of_lt hid)

theorem grows_push (g : Graph) (n : Node) (parent : NodeId) : g.Grows (g.push n) parent := by
  have hget : ∀ id, id < g.size → (g.push n).get? id = g.get? id := by
    intro id hid
    rw [get?_push, if_neg (Nat.ne_of_lt hid)]
  refine ⟨?_, fun id hid => ?_, fun id hid _ => ?_, fun id hid => ?_⟩
  · rw [size_push]
    exact Nat.le_succ _
  · rw [Graph.label?, Graph.label?, hget id hid]
  · rw [neighbors, neighbors, hget id hid]
  · rw [Graph.parent, Graph.parent, hget id hid]

/-- Hanging a new root under a node makes a graph grow at this node. -/
theorem Appended.grows {k : Graph} (hgh : g.Grows h parent) (hk : Appended h k parent child)
    (hnew : g.size ≤ child) : g.Grows k parent where
  size_le := hk.size ▸ hgh.size_le
  label? id hid := by rw [hk.label?, hgh.label? id hid]
  parent id hid := by
    rw [hk.parent, if_neg (Nat.ne_of_lt (Nat.lt_of_lt_of_le hid hnew)), hgh.parent id hid]
  neighbors id hid hne := by rw [hk.neighbors, if_neg hne, hgh.neighbors id hid hne]

end Graph

end GraphSelect
