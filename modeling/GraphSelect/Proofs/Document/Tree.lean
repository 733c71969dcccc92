import GraphSelect.Proofs.Document.Built
import GraphSelect.Proofs.Document.TreeReading

/-!
# Documents of one tree

A document of one tree loads exactly when no binary node has more than two children, where a node
below a binary one is binary too, and when a graph has room for its nodes. Every node is added
behind the nodes that are there, then come the trees below it, and each of them is hung under the
node as soon as it is complete. So while the trees below a node are added, the graph grows at this
node only, which has stayed a root. The forest that every built graph is then tells the depths.
-/
namespace GraphSelect.TreeOutline

/-- A node with the given children occurs in a tree, which stands below a binary node or not; it is
`binary` by its own account or that of a node above it. -/
inductive Occurs : (above : Bool) → TreeOutline → (binary : Bool) → List TreeOutline → Prop
  | root {above own : Bool} {name : String} {attributes : List (String × Scalar)}
      {children : List TreeOutline} :
      Occurs above (.node name attributes children own) (above || own) children
  | inside {above own binary : Bool} {name : String} {attributes : List (String × Scalar)}
      {children found : List TreeOutline} {t : TreeOutline} :
      t ∈ children → Occurs (above || own) t binary found →
      Occurs above (.node name attributes children own) binary found

/-- No binary node of a tree has more than two children. -/
def Fits (above : Bool) (t : TreeOutline) : Prop :=
  ∀ children, t.Occurs above true children → children.length ≤ 2

/-- The trees that are to be hung under a node find their place there, behind the children that the
node has already. -/
def FitBelow (binary : Bool) (taken : Nat) (children : List TreeOutline) : Prop :=
  (binary = true → taken + children.length ≤ 2) ∧ ∀ t ∈ children, t.Fits binary

theorem fits_node_iff {above own : Bool} {name : String} {attributes : List (String × Scalar)}
    {children : List TreeOutline} :
    (node name attributes children own).Fits above ↔ FitBelow (above || own) 0 children := by
  rw [FitBelow, Nat.zero_add]
  constructor
  · intro h
    refine ⟨fun hbinary => h children ?_, fun t ht found hfound => h found (.inside ht hfound)⟩
    have hroot := @Occurs.root above own name attributes children
    rwa [hbinary] at hroot
  · rintro ⟨hroot, hbelow⟩ found hfound
    generalize hb : true = binary at hfound
    cases hfound with
    | root => exact hroot hb.symm
    | inside ht hfound => exact hbelow _ ht found (hb ▸ hfound)

theorem fitBelow_cons_iff {binary : Bool} {taken : Nat} {t : TreeOutline}
    {rest : List TreeOutline} :
    FitBelow binary taken (t :: rest) ↔
      t.Fits binary ∧ (binary = true → taken < 2) ∧ FitBelow binary (taken + 1) rest := by
  simp only [FitBelow, List.length_cons, List.forall_mem_cons]
  constructor
  · rintro ⟨hroom, ht, hrest⟩
    refine ⟨ht, fun hb => ?_, fun hb => ?_, hrest⟩ <;>
    · have := hroom hb
      omega
  · rintro ⟨ht, -, hroom, hrest⟩
    refine ⟨fun hb => ?_, ht, hrest⟩
    have := hroom hb
    omega

/-- What has come of `g` when a tree has been added to it. -/
structure Planted (g h : Graph) (above : Bool) (t : TreeOutline) : Prop where
  built : h.Built
  size : h.size = g.size + t.size
  grows : g.Grows h g.size
  root : h.parent g.size = none
  holds : t.Holds h above g.size

/-- What has come of `g` when trees have been added to it and hung under a node. -/
structure Arranged (g h : Graph) (binary : Bool) (parent : NodeId) (children : List TreeOutline) :
    Prop where
  built : h.Built
  size : h.size = g.size + sizeAll children
  grows : g.Grows h parent
  neighbors : h.neighbors parent = g.neighbors parent ++ rootsFrom g.size children
  holds : HoldsAll h binary g.size children

structure Top (g : Graph) (binary : Bool) (parent : NodeId) : Prop where
  kind : g.kind? parent = some (if binary then .binary else .tree)
  root : g.parent parent = none

variable {g h k : Graph} {above binary : Bool} {parent : NodeId} {t : TreeOutline}
  {rest children : List TreeOutline}

namespace Top

theorem isTree (htop : Top g binary parent) : g.isTree parent := by
  rw [Graph.isTree, htop.kind]
  cases binary <;> rfl

theorem lt_size (htop : Top g binary parent) : parent < g.size :=
  Graph.lt_size_of_isTree htop.isTree

theorem of_grows {p : NodeId} (htop : Top g binary parent) (hgh : g.Grows h p) :
    Top h binary parent where
  kind := (hgh.kind? htop.lt_size).trans htop.kind
  root := (hgh.parent parent htop.lt_size).trans htop.root

end Top

theorem Arranged.nil (hg : g.Built) : Arranged g g binary parent [] where
  built := hg
  size := rfl
  grows := ⟨Nat.le_refl _, fun _ _ => rfl, fun _ _ _ => rfl, fun _ _ => rfl⟩
  neighbors := (List.append_nil _).symm
  holds := trivial

theorem Arranged.size_eq (hfirst : Arranged g h binary parent [t]) : h.size = g.size + t.size :=
  hfirst.size

theorem Arranged.length_neighbors (hfirst : Arranged g h binary parent [t]) :
    (h.neighbors parent).length = (g.neighbors parent).length + 1 := by
  rw [hfirst.neighbors, List.length_append]
  rfl

/-- The nodes of a tree that was hung under a node earlier are none that a later one changes. -/
theorem Arranged.cons (htop : Top g binary parent) (hfirst : Arranged g h binary parent [t])
    (hrest : Arranged h k binary parent rest) : Arranged g k binary parent (t :: rest) where
  built := hrest.built
  size := by
    rw [hrest.size, hfirst.size]
    simp only [sizeAll]
    omega
  grows := hfirst.grows.trans hrest.grows
  neighbors := by
    rw [hrest.neighbors, hfirst.neighbors, hfirst.size, List.append_assoc]
    rfl
  holds := by
    have hsize : h.size = g.size + t.size := hfirst.size
    refine ⟨Holds.congr (fun n hle hlt => ?_) hfirst.holds.1, hsize ▸ hrest.holds⟩
    have hne : n ≠ parent := fun e => Nat.not_le.2 htop.lt_size (e ▸ hle)
    rw [← hsize] at hlt
    exact ⟨hrest.grows.label? n hlt, hrest.grows.neighbors n hlt hne⟩

theorem Planted.arranged (htop : Top g binary parent) (hplanted : Planted g h binary t)
    (hroom : binary = true → (g.neighbors parent).length < 2) :
    ∃ k, h.addChild parent g.size = .ok k ∧ Arranged g k binary parent [t] := by
  have htop' := htop.of_grows hplanted.grows
  have hne : parent ≠ g.size := Nat.ne_of_lt htop.lt_size
  have hneighbors := hplanted.grows.neighbors parent htop.lt_size hne
  have hroom' : h.kind? parent = some .binary → (h.neighbors parent).length < 2 := by
    intro hk
    rw [hneighbors]
    refine hroom ?_
    rw [htop'.kind] at hk
    cases binary with
    | false => cases hk
    | true => rfl
  obtain ⟨k, hk, happended⟩ := Graph.exists_addChild hplanted.built.forest htop'.isTree
    hplanted.holds.isTree hne hplanted.root htop'.root hroom'
  refine ⟨k, hk, ?_⟩
  exact {
    built := hplanted.built.run (e := .addChild parent g.size) hk
    size := happended.size.trans hplanted.size
    grows := happended.grows (hplanted.grows.of_new parent) (Nat.le_refl _)
    neighbors := by
      rw [happended.neighbors, if_pos rfl, hneighbors]
      rfl
    holds := by
      refine ⟨Holds.congr (fun n hle _ => ⟨happended.label? n, ?_⟩) hplanted.holds, trivial⟩
      have hn : n ≠ parent := fun e => Nat.not_le.2 htop.lt_size (e ▸ hle)
      rw [happended.neighbors, if_neg hn] }

theorem Planted.refused (htop : Top g true parent) (hplanted : Planted g h true t)
    (hfull : 2 ≤ (g.neighbors parent).length) :
    ∃ fault, h.addChild parent g.size = .error (.contract fault) := by
  have hne : parent ≠ g.size := Nat.ne_of_lt htop.lt_size
  rw [← hplanted.grows.neighbors parent htop.lt_size hne] at hfull
  exact ⟨_, Graph.addChild_of_full (htop.of_grows hplanted.grows).kind hplanted.holds.isTree hne
    hplanted.root hfull⟩

def nodeOf (binary : Bool) (name : String) (attributes : List (String × Scalar)) : Node where
  name := name
  kind := if binary then .binary else .tree
  attributes := .ofList (Scalar.texts attributes)

theorem labelled_nodeOf (binary : Bool) (name : String) (attributes : List (String × Scalar)) :
    Labelled (nodeOf binary name attributes).label binary name attributes where
  name := rfl
  kind := rfl
  attributes key :=
    (Attributes.get?_ofList _ key).trans (Scalar.lookup_reverse_texts attributes key)

section

variable (above : Bool) (name : String) (attributes : List (String × Scalar))
  (children : List TreeOutline) (own : Bool)

theorem add_node (hroom : g.size < Graph.maxNodes) :
    (node name attributes children own).add above g =
      (addBelow (above || own) g.size (g.push (nodeOf (above || own) name attributes)) children).map
        (·, g.size) := by
  rw [add, Graph.add_eq_ok_iff.2 ⟨hroom, rfl⟩]
  change (Graph.setScalars _ _ _ >>= fun g' =>
    addBelow (above || own) g.size g' children >>= fun g' => pure (g', g.size)) = _
  rw [Graph.setScalars_push]
  change (addBelow (above || own) g.size (g.push (nodeOf (above || own) name attributes)) children
    >>= fun g' => pure (g', g.size)) = _
  cases addBelow (above || own) g.size (g.push (nodeOf (above || own) name attributes)) children <;>
    rfl

theorem add_node_of_full (hfull : Graph.maxNodes ≤ g.size) :
    (node name attributes children own).add above g =
      .error (.contract (.graphFull g.size)) := by
  rw [add, Graph.add_of_full hfull]
  rfl

end

theorem addBelow_cons_eq (hadd : t.add binary g = .ok (h, g.size))
    (hchild : h.addChild parent g.size = .ok k) (rest : List TreeOutline) :
    addBelow binary parent g (t :: rest) = addBelow binary parent k rest := by
  rw [addBelow, hadd]
  change (h.addChild parent g.size >>= _) = _
  rw [hchild]
  rfl

section

variable (g binary) (name : String) (attributes : List (String × Scalar))

theorem get?_push_nodeOf :
    (g.push (nodeOf binary name attributes)).get? g.size = some (nodeOf binary name attributes) := by
  rw [Graph.get?_push, if_pos rfl]

theorem neighbors_push_nodeOf : (g.push (nodeOf binary name attributes)).neighbors g.size = [] :=
  Graph.neighbors_eq (get?_push_nodeOf g binary name attributes)

theorem top_push_nodeOf : Top (g.push (nodeOf binary name attributes)) binary g.size where
  kind := Graph.kind?_eq (get?_push_nodeOf g binary name attributes)
  root := Graph.parent_eq (get?_push_nodeOf g binary name attributes)

variable {g}

theorem built_push_nodeOf (hg : g.Built) (hroom : g.size < Graph.maxNodes) :
    (g.push (nodeOf binary name attributes)).Built := by
  have hadd : (g.push { name, kind := if binary then .binary else .tree }).Built :=
    hg.add (Graph.add_eq_ok_iff.2 ⟨hroom, rfl⟩)
  exact hadd.setScalars (g.setScalars_push _ attributes)

end

/-- A new root under which the trees below it have been hung makes a tree. -/
theorem Planted.of_arranged {name : String} {attributes : List (String × Scalar)} {own : Bool}
    (harranged : Arranged (g.push (nodeOf (above || own) name attributes)) h (above || own) g.size
      children) : Planted g h above (.node name attributes children own) := by
  have htop := top_push_nodeOf g (above || own) name attributes
  have hlabel : (g.push (nodeOf (above || own) name attributes)).label? g.size =
      some (nodeOf (above || own) name attributes).label := by
    rw [Graph.label?, get?_push_nodeOf]
    rfl
  have hneighbors := harranged.neighbors
  rw [neighbors_push_nodeOf, Graph.size_push] at hneighbors
  have hbelow := harranged.holds
  rw [Graph.size_push] at hbelow
  exact {
    built := harranged.built
    size := by
      rw [harranged.size, Graph.size_push, TreeOutline.size]
      omega
    grows := (Graph.grows_push g _ g.size).trans harranged.grows
    root := (htop.of_grows harranged.grows).root
    holds := ⟨⟨_, (harranged.grows.label? g.size htop.lt_size).trans hlabel,
      labelled_nodeOf (above || own) name attributes⟩, hneighbors, hbelow⟩ }

mutual

theorem exists_add : ∀ {t : TreeOutline} {above : Bool} {g : Graph}, g.Built → t.Fits above →
    g.size + t.size ≤ Graph.maxNodes → ∃ h, t.add above g = .ok (h, g.size) ∧ Planted g h above t
  | .node name attributes children own, above, g, hg, hfit, hroom => by
    rw [size, ← Nat.add_assoc, Nat.add_right_comm] at hroom
    have hlt : g.size < Graph.maxNodes := Nat.le_trans (Nat.le_add_right _ _) hroom
    have hfit' := fits_node_iff.1 hfit
    rw [← List.length_nil, ← neighbors_push_nodeOf g (above || own) name attributes] at hfit'
    obtain ⟨h, hadd, harranged⟩ := exists_addBelow (built_push_nodeOf _ name attributes hg hlt)
      (top_push_nodeOf g _ name attributes) hfit' (by rwa [Graph.size_push])
    refine ⟨h, ?_, .of_arranged harranged⟩
    rw [add_node above name attributes children own hlt, hadd]
    rfl

theorem exists_addBelow : ∀ {children : List TreeOutline} {binary : Bool} {g : Graph}
    {parent : NodeId}, g.Built → Top g binary parent →
      FitBelow binary (g.neighbors parent).length children →
      g.size + sizeAll children ≤ Graph.maxNodes →
      ∃ h, addBelow binary parent g children = .ok h ∧ Arranged g h binary parent children
  | [], binary, g, parent, hg, _, _, _ => ⟨g, by rw [addBelow], .nil hg⟩
  | t :: rest, binary, g, parent, hg, htop, hfit, hroom => by
    rw [sizeAll, ← Nat.add_assoc] at hroom
    obtain ⟨ht, hplace, hfit'⟩ := fitBelow_cons_iff.1 hfit
    obtain ⟨h, hadd, hplanted⟩ := exists_add hg ht (Nat.le_trans (Nat.le_add_right _ _) hroom)
    obtain ⟨k, hchild, hfirst⟩ := hplanted.arranged htop hplace
    rw [← hfirst.length_neighbors] at hfit'
    obtain ⟨h', hbelow, hrest⟩ := exists_addBelow hfirst.built (htop.of_grows hfirst.grows) hfit'
      (by rwa [hfirst.size_eq])
    exact ⟨h', (addBelow_cons_eq hadd hchild rest).trans hbelow, .cons htop hfirst hrest⟩

end

mutual

/-- A tree that does not fit, or for whose nodes there is no room, is refused. -/
theorem add_refused : ∀ {t : TreeOutline} {above : Bool} {g : Graph}, g.Built →
    ¬ (t.Fits above ∧ g.size + t.size ≤ Graph.maxNodes) →
      ∃ fault, t.add above g = .error (.contract fault)
  | .node name attributes children own, above, g, hg, hrefused => by
    rcases Nat.lt_or_ge g.size Graph.maxNodes with hlt | hfull
    · rw [fits_node_iff, ← List.length_nil, ← neighbors_push_nodeOf g (above || own) name attributes,
        size, ← Nat.add_assoc, Nat.add_right_comm] at hrefused
      obtain ⟨fault, hadd⟩ := addBelow_refused (built_push_nodeOf _ name attributes hg hlt)
        (top_push_nodeOf g _ name attributes) (by rwa [Graph.size_push])
      refine ⟨fault, ?_⟩
      rw [add_node above name attributes children own hlt, hadd]
      rfl
    · exact ⟨_, add_node_of_full above name attributes children own hfull⟩

theorem addBelow_refused : ∀ {children : List TreeOutline} {binary : Bool} {g : Graph}
    {parent : NodeId}, g.Built → Top g binary parent →
      ¬ (FitBelow binary (g.neighbors parent).length children ∧
        g.size + sizeAll children ≤ Graph.maxNodes) →
      ∃ fault, addBelow binary parent g children = .error (.contract fault)
  | [], binary, g, parent, hg, htop, hrefused => by
    refine absurd ⟨⟨fun hb => ?_, nofun⟩, hg.size_le⟩ hrefused
    have hkind := htop.kind
    rw [if_pos hb] at hkind
    exact hg.forest.binary hkind
  | t :: rest, binary, g, parent, hg, htop, hrefused => by
    -- The first tree is refused, or it finds no place when it is complete, or the others are refused.
    by_cases ht : t.Fits binary ∧ g.size + t.size ≤ Graph.maxNodes
    · obtain ⟨h, hadd, hplanted⟩ := exists_add hg ht.1 ht.2
      by_cases hplace : binary = true → (g.neighbors parent).length < 2
      · obtain ⟨k, hchild, hfirst⟩ := hplanted.arranged htop hplace
        rw [addBelow_cons_eq hadd hchild rest]
        refine addBelow_refused hfirst.built (htop.of_grows hfirst.grows) ?_
        rw [hfirst.length_neighbors, hfirst.size_eq, Nat.add_assoc]
        rintro ⟨hrest, hroom⟩
        exact hrefused ⟨fitBelow_cons_iff.2 ⟨ht.1, hplace, hrest⟩, hroom⟩
      · obtain ⟨rfl, hfull⟩ := Classical.not_imp.1 hplace
        obtain ⟨fault, hchild⟩ := hplanted.refused htop (Nat.not_lt.1 hfull)
        refine ⟨fault, ?_⟩
        rw [addBelow, hadd]
        change (h.addChild parent g.size >>= _) = _
        rw [hchild]
        rfl
    · obtain ⟨fault, hadd⟩ := add_refused hg ht
      refine ⟨fault, ?_⟩
      rw [addBelow, hadd]
      rfl

end

/-- A tree finds its place in a graph: no binary node has more than two children, and there is room for
its nodes. -/
def Loadable (t : TreeOutline) : Prop := t.Fits false ∧ t.size ≤ Graph.maxNodes

theorem loadable_iff :
    t.Loadable ↔ t.Fits false ∧ Graph.empty.size + t.size ≤ Graph.maxNodes := by
  rw [show Graph.empty.size + t.size = t.size from Nat.zero_add _]
  rfl

theorem exists_build (h : t.Loadable) :
    ∃ g, t.build = .ok ⟨g, 0⟩ ∧ Planted .empty g false t := by
  obtain ⟨hfit, hroom⟩ := loadable_iff.1 h
  obtain ⟨g, hadd, hplanted⟩ := exists_add Graph.built_empty hfit hroom
  refine ⟨g, ?_, hplanted⟩
  rw [build, hadd]
  rfl

theorem build_refused (h : ¬ t.Loadable) : ∃ fault, t.build = .error (.contract fault) := by
  obtain ⟨fault, hadd⟩ := add_refused Graph.built_empty (mt loadable_iff.2 h)
  refine ⟨fault, ?_⟩
  rw [build, hadd]
  rfl

namespace Planted

variable (hplanted : Planted .empty g above t)

include hplanted

theorem size_eq : g.size = t.size := by
  rw [hplanted.size]
  exact Nat.zero_add _

theorem exists_tree? : ∃ r, g.tree? g.size 0 = some r ∧ t.Shown above 0 0 r := by
  have hg := hplanted.built.forest
  exact tree?_of_holds hg hplanted.holds (hg.level_root hplanted.holds.isTree hplanted.root)
    (Nat.le_of_eq hplanted.size_eq.symm)

theorem isRoot_iff (id : NodeId) : g.isRoot id ↔ id = 0 := by
  rw [Graph.isRoot_iff]
  constructor
  · rintro ⟨htree, hroot⟩
    by_contra hne
    have hlt : id < t.size := hplanted.size_eq ▸ Graph.lt_size_of_isTree htree
    obtain ⟨p, hp⟩ := Holds.exists_parent hplanted.built.forest hplanted.holds hlt hne
    cases hroot.symm.trans hp
  · rintro rfl
    exact ⟨hplanted.holds.isTree, hplanted.root⟩

end Planted

/-- A document of one tree loads exactly when no binary node has more than two children and a graph has
room for its nodes, and is refused as breaking a rule otherwise. The graph has one node for each of
the document, the root of the document is its only root, and reading it back from there shows the
nodes of the document in their order, each with its name, its kind, its attributes as texts and its
depth. The numbers of the nodes are their places in the document, and a depth-first walk goes through
them in turn. -/
theorem build_ok_iff_fits (t : TreeOutline) :
    ((∃ d, t.build = .ok d) ↔ t.Fits false ∧ t.size ≤ 4294967295) ∧
      (¬ (t.Fits false ∧ t.size ≤ 4294967295) →
        ∃ fault, t.build = .error (.contract fault)) ∧
      ∀ d, t.build = .ok d →
        d.origin = 0 ∧ d.graph.size = t.size ∧
        (∃ r, d.graph.tree? d.graph.size d.origin = some r ∧ t.Shown false 0 0 r ∧
          r.ids = List.range t.size) ∧
        (∀ id, d.graph.isRoot id ↔ id = d.origin) ∧
        (Strategy.depthFirst.walk d.graph none d.origin).found (fun _ => true) =
          List.range t.size := by
  have hloads : ∀ d, t.build = .ok d → t.Loadable := by
    intro d hd
    by_contra hnot
    obtain ⟨fault, hfault⟩ := build_refused hnot
    cases hd.symm.trans hfault
  refine ⟨⟨fun ⟨d, hd⟩ => hloads d hd, fun h => ?_⟩, build_refused, fun d hd => ?_⟩
  · obtain ⟨g, hg, -⟩ := exists_build h
    exact ⟨⟨g, 0⟩, hg⟩
  · obtain ⟨g, hg, hplanted⟩ := exists_build (hloads d hd)
    cases Except.ok.inj (hd.symm.trans hg)
    obtain ⟨r, hread, hshown⟩ := hplanted.exists_tree?
    refine ⟨rfl, hplanted.size_eq, ⟨r, hread, hshown, ?_⟩, hplanted.isRoot_iff, ?_⟩
    · rw [hshown.ids_eq, List.range_eq_range']
    · have horder : (Strategy.depthFirst.walk g none 0).order = List.range t.size :=
        Holds.order_walk hplanted.holds
      rw [Walk.found, horder, List.filter_eq_self.2 fun _ _ => rfl]

def bush (leaves : Nat) : TreeOutline :=
  node "root" [] (List.replicate leaves (node "leaf" [] [] false)) false

theorem size_bush (leaves : Nat) : (bush leaves).size = leaves + 1 := by
  have hleaves : sizeAll (List.replicate leaves (node "leaf" [] [] false)) = leaves := by
    induction leaves with
    | zero => rfl
    | succ leaves ih =>
      rw [List.replicate_succ, sizeAll, ih, size, sizeAll]
      omega
  rw [bush, size, hleaves]

theorem fits_bush (leaves : Nat) : (bush leaves).Fits false := by
  refine fits_node_iff.2 ⟨nofun, fun t ht => ?_⟩
  rw [List.eq_of_mem_replicate ht]
  exact fits_node_iff.2 ⟨nofun, nofun⟩

/-- Without binary nodes a tree is still refused when it has more nodes than a graph holds. -/
theorem bush_of_overfull {leaves : Nat} (h : Graph.maxNodes ≤ leaves) :
    (bush leaves).Fits false ∧ ∃ fault, (bush leaves).build = .error (.contract fault) := by
  refine ⟨fits_bush leaves, build_refused fun hloads => ?_⟩
  have hroom := hloads.2
  rw [size_bush] at hroom
  exact Nat.not_lt.2 h hroom

theorem fits_and_refused : (bush 4294967295).Fits false ∧
    ∃ fault, (bush 4294967295).build = .error (.contract fault) :=
  bush_of_overfull (by decide)

/-- A node below a binary one takes no third child either. -/
example :
    let leaf := node "c" [] [] false
    build (.node "a" [] [.node "b" [] [leaf, leaf, leaf] false] true) =
      .error (.contract (.tooManyChildren 1 2 2)) := by decide

end GraphSelect.TreeOutline
