import GraphSelect.Graph.Edit
import Mathlib.Data.List.InsertIdx
import Mathlib.Data.List.Nodup
import Mathlib.Logic.Relation

/-!
# Look-ups after an edit

Every edit changes the nodes of a graph one by one, and a graph is known by its look-ups. The
equations of this file say what each look-up becomes: first after a row of changes of single
nodes, then after the rearrangement of children that both ways of moving a tree consist of. No
later file opens the edits again.
-/
namespace GraphSelect.Graph

def kind? (g : Graph) (id : NodeId) : Option Kind := (g.get? id).map Node.kind

def isTree (g : Graph) (id : NodeId) : Bool := (g.kind? id).any Kind.isTree

/-- The stored distance from the root, whatever the kind of the node. -/
def level (g : Graph) (id : NodeId) : Nat := (g.get? id).elim 0 Node.level

def Leads (g : Graph) (source target : NodeId) : Prop := target ∈ g.neighbors source

/-- Some way along links leads from one node to another, or they are the same. -/
def Reaches (g : Graph) : NodeId → NodeId → Prop := Relation.ReflTransGen g.Leads

def Up (g : Graph) (child parent : NodeId) : Prop := g.parent child = some parent

theorem get?_eq_none_iff {g : Graph} {id : NodeId} : g.get? id = none ↔ g.size ≤ id := by
  simp [get?, size]

theorem lt_size_iff {g : Graph} {id : NodeId} : id < g.size ↔ ∃ n, g.get? id = some n := by
  rw [← Option.isSome_iff_exists, ← not_iff_not, Bool.not_eq_true, Option.isSome_eq_false_iff,
    Option.isNone_iff_eq_none, get?_eq_none_iff, Nat.not_lt]

theorem isTree_iff {g : Graph} {id : NodeId} :
    g.isTree id ↔ ∃ n, g.get? id = some n ∧ n.kind.isTree := by
  simp [isTree, kind?, Option.any_eq_true]

theorem lt_size_of_isTree {g : Graph} {id : NodeId} (h : g.isTree id) : id < g.size := by
  obtain ⟨n, hn, -⟩ := isTree_iff.1 h
  exact lt_size_iff.2 ⟨n, hn⟩

theorem children_eq (g : Graph) (id : NodeId) :
    g.children id = if g.isTree id then g.neighbors id else [] := by
  cases h : g.get? id <;> simp [children, isTree, kind?, neighbors, h]

theorem children_of_isTree {g : Graph} {id : NodeId} (h : g.isTree id) :
    g.children id = g.neighbors id := by
  rw [children_eq, if_pos h]

theorem mem_children {g : Graph} {id n : NodeId} :
    n ∈ g.children id ↔ g.isTree id ∧ n ∈ g.neighbors id := by
  rw [children_eq]
  split <;> simp_all

theorem depth_eq (g : Graph) (id : NodeId) :
    g.depth id = if g.isTree id then some (g.level id) else none := by
  cases h : g.get? id <;> simp [depth, Node.depth, isTree, kind?, level, h]

theorem isRoot_iff {g : Graph} {id : NodeId} :
    g.isRoot id ↔ g.isTree id ∧ g.parent id = none := by
  cases h : g.get? id <;> simp [isRoot, isTree, kind?, parent, h]

theorem neighbors_eq {g : Graph} {id : NodeId} {n : Node} (h : g.get? id = some n) :
    g.neighbors id = n.neighbors := by simp [neighbors, h]

theorem parent_eq {g : Graph} {id : NodeId} {n : Node} (h : g.get? id = some n) :
    g.parent id = n.parent := by simp [parent, h]

theorem index_eq {g : Graph} {id : NodeId} {n : Node} (h : g.get? id = some n) :
    g.index id = n.index := by simp [index, h]

theorem level_eq {g : Graph} {id : NodeId} {n : Node} (h : g.get? id = some n) :
    g.level id = n.level := by simp [level, h]

theorem kind?_eq {g : Graph} {id : NodeId} {n : Node} (h : g.get? id = some n) :
    g.kind? id = some n.kind := by simp [kind?, h]

/-- Look-ups by the same number agree in all graphs that have the same node there. -/
theorem size_eq_of_get? {g h : Graph} (f : NodeId → Node → Node)
    (e : ∀ id, h.get? id = (g.get? id).map (f id)) : h.size = g.size := by
  have hlt : ∀ id, id < h.size ↔ id < g.size := by
    intro id
    rw [lt_size_iff, lt_size_iff, e]
    cases g.get? id <;> simp
  have h₁ := hlt g.size
  have h₂ := hlt h.size
  omega

/-- What a row of changes, each of one node, makes of a node: the last change that names it
counts. -/
theorem get?_foldl_modify {α : Type} (set : α → Node → Node)
    (hset : ∀ a b n, set a (set b n) = set a n) (g : Graph) (changes : List (NodeId × α))
    (id : NodeId) :
    (changes.foldl (fun g p => g.modify p.1 (set p.2)) g).get? id =
      (g.get? id).map fun n => (changes.reverse.lookup id).elim n (set · n) := by
  induction changes generalizing g with
  | nil => simp
  | cons p rest ih =>
    obtain ⟨k, a⟩ := p
    rw [List.foldl_cons, ih, get?_modify, List.reverse_cons, List.lookup_append]
    by_cases h : k = id
    · subst h
      cases g.get? k <;> cases rest.reverse.lookup k <;> simp [hset]
    · have h' : (id == k) = false := by simpa using Ne.symm h
      simp [h, List.lookup_cons, h']

theorem numberFrom_eq_foldl (g : Graph) (start : Nat) (children : List NodeId) :
    g.numberFrom start children = (children.zipIdx start).foldl
      (fun g p => g.modify p.1 fun n => { n with index := some p.2 }) g := by
  induction children generalizing g start with
  | nil => rfl
  | cons c rest ih => rw [numberFrom, ih]; rfl

theorem lookup_reverse_zipIdx {α : Type} [DecidableEq α] {l : List α} (hl : l.Nodup) (start : Nat)
    (id : α) :
    (l.zipIdx start).reverse.lookup id = if id ∈ l then some (start + l.idxOf id) else none := by
  induction l generalizing start with
  | nil => simp
  | cons a l ih =>
    rw [List.nodup_cons] at hl
    rw [List.zipIdx_cons, List.reverse_cons, List.lookup_append, ih hl.2, List.lookup_cons]
    by_cases h : id = a
    · subst h
      simp [hl.1]
    · have hb : (id == a) = false := by simpa using h
      by_cases hm : id ∈ l
      · simp [hm, hb, List.idxOf_cons_ne l (Ne.symm h)]
        omega
      · simp [hm, hb, h]

theorem get?_numberFrom {children : List NodeId} (hc : children.Nodup) (g : Graph) (start : Nat)
    (id : NodeId) :
    (g.numberFrom start children).get? id = (g.get? id).map fun n =>
      { n with index := if id ∈ children then some (start + children.idxOf id) else n.index } := by
  rw [numberFrom_eq_foldl,
    get?_foldl_modify (fun i n => { n with index := some i }) (fun _ _ _ => rfl)]
  simp only [lookup_reverse_zipIdx hc]
  split <;> rfl

theorem get?_setSubtreeLevel (g : Graph) (root : NodeId) (level : Nat) (id : NodeId) :
    (g.setSubtreeLevel root level).get? id = (g.get? id).map fun n =>
      { n with level := ((g.subtreeLevels root level).reverse.lookup id).getD n.level } := by
  rw [setSubtreeLevel,
    get?_foldl_modify (fun l n => { n with level := l }) (fun _ _ _ => rfl)]
  congr 1
  funext n
  cases (g.subtreeLevels root level).reverse.lookup id <;> rfl

/-- The nodes below a node and their levels depend on the links alone. -/
theorem levelsFrom_congr {g h : Graph} (e : ∀ id, g.neighbors id = h.neighbors id) (steps : Nat)
    (pending : List (NodeId × Nat)) : g.levelsFrom steps pending = h.levelsFrom steps pending := by
  induction steps generalizing pending with
  | zero => rfl
  | succ steps ih =>
    cases pending with
    | nil => rfl
    | cons p rest =>
      obtain ⟨id, level⟩ := p
      rw [levelsFrom, levelsFrom, e, ih]

theorem idxOf_drop {l : List NodeId} (hl : l.Nodup) {k : Nat} {id : NodeId} (h : id ∈ l.drop k) :
    k + (l.drop k).idxOf id = l.idxOf id := by
  have hd : (l.take k ++ l.drop k).Nodup := by rwa [List.take_append_drop]
  have hn : id ∉ l.take k := fun ht => (List.disjoint_of_nodup_append hd) ht h
  have hk : (l.take k).length = k := by
    have : k < l.length := by
      by_contra hlt
      simp [List.drop_eq_nil_of_le (Nat.le_of_not_lt hlt)] at h
    simp; omega
  calc k + (l.drop k).idxOf id = (l.take k ++ l.drop k).idxOf id := by
        rw [List.idxOf_append_of_notMem hn, hk]
    _ = l.idxOf id := by rw [List.take_append_drop]

section SetSubtreeLevel

variable (g : Graph) (root : NodeId) (level : Nat)

@[simp] theorem size_setSubtreeLevel : (g.setSubtreeLevel root level).size = g.size :=
  size_eq_of_get? _ (get?_setSubtreeLevel g root level)

@[simp] theorem kind?_setSubtreeLevel (id : NodeId) :
    (g.setSubtreeLevel root level).kind? id = g.kind? id := by
  cases h : g.get? id <;> simp [kind?, get?_setSubtreeLevel, h]

@[simp] theorem neighbors_setSubtreeLevel (id : NodeId) :
    (g.setSubtreeLevel root level).neighbors id = g.neighbors id := by
  cases h : g.get? id <;> simp [neighbors, get?_setSubtreeLevel, h]

@[simp] theorem parent_setSubtreeLevel (id : NodeId) :
    (g.setSubtreeLevel root level).parent id = g.parent id := by
  cases h : g.get? id <;> simp [parent, get?_setSubtreeLevel, h]

@[simp] theorem index_setSubtreeLevel (id : NodeId) :
    (g.setSubtreeLevel root level).index id = g.index id := by
  cases h : g.get? id <;> simp [index, get?_setSubtreeLevel, h]

theorem subtreeLevels_setSubtreeLevel (top : NodeId) (height : Nat) :
    (g.setSubtreeLevel root level).subtreeLevels top height = g.subtreeLevels top height := by
  rw [subtreeLevels, subtreeLevels, size_setSubtreeLevel]
  exact levelsFrom_congr (neighbors_setSubtreeLevel g root level) _ _

theorem level_setSubtreeLevel {id : NodeId} (hid : id < g.size) :
    (g.setSubtreeLevel root level).level id =
      ((g.subtreeLevels root level).reverse.lookup id).getD (g.level id) := by
  obtain ⟨n, hn⟩ := lt_size_iff.1 hid
  simp [Graph.level, get?_setSubtreeLevel, hn]

end SetSubtreeLevel

structure Moves (move : Node → Node) (up : Option NodeId) : Prop where
  kind : ∀ n, (move n).kind = n.kind
  neighbors : ∀ n, (move n).neighbors = n.neighbors
  level : ∀ n, (move n).level = n.level
  parent : ∀ n, (move n).parent = up

/-- How the look-ups of `h` follow from those of `g` when `children` have become the children of
`parent`, numbered from `start` on, and `child` hangs under `up`. The levels are those that the
links of `h` give to the subtree of `child`. -/
structure Rearranged (g h : Graph) (parent : NodeId) (children : List NodeId) (start : Nat)
    (child : NodeId) (up : Option NodeId) (level : Nat) : Prop where
  size : h.size = g.size
  kind? : ∀ id, h.kind? id = g.kind? id
  neighbors : ∀ id, h.neighbors id = if id = parent then children else g.neighbors id
  parent : ∀ id, h.parent id = if id = child then up else g.parent id
  index_of_mem : ∀ id, id < g.size → id ∈ children.drop start → h.index id = some (children.idxOf id)
  index_of_notMem : ∀ id, id ≠ child → id ∉ children.drop start → h.index id = g.index id
  level : ∀ id, id < g.size →
    h.level id = ((h.subtreeLevels child level).reverse.lookup id).getD (g.level id)

private def relinked (parent : NodeId) (change : List NodeId → List NodeId) (child : NodeId)
    (move : Node → Node) (id : NodeId) (n : Node) : Node :=
  let linked := if parent = id then { n with neighbors := change n.neighbors } else n
  if child = id then move linked else linked

section Rearrange

variable {g : Graph} {parent child : NodeId} {change : List NodeId → List NodeId}
  {move : Node → Node} {up : Option NodeId}

private theorem get?_relinked (id : NodeId) :
    ((g.modify parent fun n => { n with neighbors := change n.neighbors }).modify child move).get? id =
      (g.get? id).map (relinked parent change child move id) := by
  rw [get?_modify, get?_modify]
  by_cases hc : child = id <;> by_cases hp : parent = id <;> cases g.get? id <;>
    simp [relinked, hc, hp]

/-- What a node keeps, and what becomes of its links. -/
private theorem relinked_eq (hm : Moves move up) (id : NodeId) (n : Node) :
    (relinked parent change child move id n).kind = n.kind ∧
    (relinked parent change child move id n).level = n.level ∧
    (relinked parent change child move id n).neighbors =
      (if id = parent then change n.neighbors else n.neighbors) ∧
    (relinked parent change child move id n).parent = (if id = child then up else n.parent) := by
  have hp : parent = id ↔ id = parent := eq_comm
  have hc : child = id ↔ id = child := eq_comm
  by_cases h : child = id <;> by_cases h' : parent = id <;>
    simp [relinked, h, h', hm.kind, hm.level, hm.neighbors, hm.parent, ← hp, ← hc]

private theorem index_relinked {id : NodeId} (hid : id ≠ child) (n : Node) :
    (relinked parent change child move id n).index = n.index := by
  by_cases hp : parent = id <;> simp [relinked, Ne.symm hid, hp]

/-- A rearrangement sets the levels of a subtree in a graph whose nodes have the new links and
places. -/
private theorem rearrange_eq (hparent : parent < g.size) (hm : Moves move up)
    (hnodup : (change (g.neighbors parent)).Nodup) (start : Nat) (child : NodeId) (level : Nat) :
    ∃ h : Graph, g.rearrange parent change start child move level = h.setSubtreeLevel child level ∧
      ∀ id, h.get? id = (g.get? id).map fun n =>
        let children := (change (g.neighbors parent)).drop start
        let linked := relinked parent change child move id n
        { linked with index :=
            if id ∈ children then some (start + children.idxOf id) else linked.index } := by
  obtain ⟨p, hp⟩ := lt_size_iff.1 hparent
  have hn : ((g.modify parent fun n => { n with neighbors := change n.neighbors }).modify child
      move).neighbors parent = change (g.neighbors parent) := by
    rw [neighbors, get?_relinked, hp, Option.map_some, Option.elim_some, (relinked_eq hm _ _).2.2.1,
      if_pos rfl, neighbors_eq hp]
  refine ⟨_, rfl, fun id => ?_⟩
  rw [reindex, hn, get?_numberFrom (hnodup.sublist (List.drop_sublist start _)), get?_relinked,
    Option.map_map]
  rfl

theorem rearranged_rearrange (hparent : parent < g.size) (hchild : child < g.size)
    (hm : Moves move up) (hnodup : (change (g.neighbors parent)).Nodup) (start level : Nat) :
    Rearranged g (g.rearrange parent change start child move level) parent
      (change (g.neighbors parent)) start child up level := by
  obtain ⟨h, e, hget⟩ := rearrange_eq hparent hm hnodup start child level
  have hne : ∀ {id k : NodeId}, g.get? id = none → k < g.size → id ≠ k := by
    rintro id k hn hk rfl
    exact Nat.not_lt.2 (get?_eq_none_iff.1 hn) hk
  rw [e]
  refine ⟨?_, fun id => ?_, fun id => ?_, fun id => ?_, fun id hid hmem => ?_, fun id hid hmem => ?_,
    fun id hid => ?_⟩
  · rw [size_setSubtreeLevel, size_eq_of_get? _ hget]
  · rw [kind?_setSubtreeLevel]
    cases hn : g.get? id <;> simp [Graph.kind?, hget, hn, relinked_eq hm]
  · rw [neighbors_setSubtreeLevel]
    cases hn : g.get? id with
    | none => simp [Graph.neighbors, hget, hn, hne hn hparent]
    | some n =>
      by_cases hid : id = parent
      · subst hid
        simp [Graph.neighbors, hget, hn, relinked_eq hm]
      · simp [Graph.neighbors, hget, hn, relinked_eq hm, hid]
  · rw [parent_setSubtreeLevel]
    cases hn : g.get? id with
    | none => simp [Graph.parent, hget, hn, hne hn hchild]
    | some n => simp [Graph.parent, hget, hn, relinked_eq hm]
  · obtain ⟨n, hn⟩ := lt_size_iff.1 hid
    rw [index_setSubtreeLevel]
    simp [Graph.index, hget, hn, hmem, idxOf_drop hnodup hmem]
  · rw [index_setSubtreeLevel]
    cases hn : g.get? id <;> simp [Graph.index, hget, hn, hmem, index_relinked hid]
  · have hl : h.level id = g.level id := by
      cases hn : g.get? id <;> simp [Graph.level, hget, hn, relinked_eq hm]
    rw [subtreeLevels_setSubtreeLevel,
      level_setSubtreeLevel _ _ _ (by rwa [size_eq_of_get? _ hget]), hl]

/-- A node that leaves the children keeps no place when the move takes it away. -/
theorem index_rearrange_child (hparent : parent < g.size) (hm : Moves move up)
    (hnodup : (change (g.neighbors parent)).Nodup) (start level : Nat)
    (hi : ∀ n, (move n).index = none) (hmem : child ∉ (change (g.neighbors parent)).drop start) :
    (g.rearrange parent change start child move level).index child = none := by
  obtain ⟨h, e, hget⟩ := rearrange_eq hparent hm hnodup start child level
  rw [e, index_setSubtreeLevel]
  cases hn : g.get? child <;> simp [Graph.index, hget, hn, hmem, relinked, hi]

end Rearrange

end GraphSelect.Graph
