import GraphSelect.Proofs.Graph.Edits

/-!
# Built graphs

A graph is used through nine edits, with any numbers and places as arguments. An edit that is
refused leaves the graph as it was. The graphs that sequences of edits lead to from the empty graph
are the built ones; their tree nodes form a forest, and whatever a graph stores twice agrees.
-/
namespace GraphSelect

inductive Edit
  | add (name : String) (kind : Kind)
  | setAttribute (id : NodeId) (key value : String)
  | withAttribute (id : NodeId) (key value : String)
  | removeAttribute (id : NodeId) (key : String)
  | connect (source target : NodeId)
  | addChild (parent child : NodeId)
  | insertChild (parent : NodeId) (position : Nat) (child : NodeId)
  | removeChild (parent child : NodeId)
  | detach (id : NodeId)
  deriving DecidableEq, Repr

namespace Edit

/-- The graph after the call, or the reason why it is refused. -/
def run (g : Graph) : Edit → Except Error Graph
  | add name kind => (g.add name kind).map Prod.fst
  | setAttribute id key value => g.setAttribute id key value
  | withAttribute id key value => (g.withAttribute id key value).map Prod.fst
  | removeAttribute id key => (g.removeAttribute id key).map Prod.fst
  | connect source target => g.connect source target
  | addChild parent child => g.addChild parent child
  | insertChild parent position child => g.insertChild parent position child
  | removeChild parent child => g.removeChild parent child
  | detach id => g.detach id

def apply (g : Graph) (e : Edit) : Graph :=
  match e.run g with
  | .ok g' => g'
  | .error _ => g

end Edit

namespace Graph

def build (edits : List Edit) : Graph := edits.foldl Edit.apply empty

def Built (g : Graph) : Prop := ∃ edits, build edits = g

theorem forest_empty : empty.Forest where
  neighbor_lt hn := by simp [neighbors] at hn
  nodup id := by simp [neighbors]
  child hid := by simp [isTree, kind?] at hid
  parent hp := by simp [parent] at hp
  index _ := by simp [index]
  binary hk := by simp [kind?] at hk
  level_root hid := by simp [isTree, kind?] at hid
  level_child hp := by simp [parent] at hp

namespace Forest

variable {g g' : Graph} {parent child : NodeId}

theorem insertChild (hg : g.Forest) {position : Nat}
    (h : g.insertChild parent position child = .ok g') : g'.Forest := by
  obtain ⟨hinsert, rfl⟩ := insertChild_eq_ok_iff.1 h
  exact hinsert.forest hg

theorem removeChild (hg : g.Forest) (h : g.removeChild parent child = .ok g') : g'.Forest := by
  obtain ⟨-, hp, position, hi, rfl⟩ := removeChild_eq_ok_iff.1 h
  exact hg.release hp hi

theorem setAttribute (hg : g.Forest) {id : NodeId} {key value : String}
    (h : g.setAttribute id key value = .ok g') : g'.Forest := by
  rw [of_setAttribute h]
  exact hg.of_keepsTrees (keepsTrees_modify hg (fun _ => ⟨rfl, rfl, rfl, rfl⟩) fun _ _ => .inl rfl)

theorem removeAttribute (hg : g.Forest) {id : NodeId} {key : String} {old : Option String}
    (h : g.removeAttribute id key = .ok (g', old)) : g'.Forest := by
  rw [of_removeAttribute h]
  exact hg.of_keepsTrees (keepsTrees_modify hg (fun _ => ⟨rfl, rfl, rfl, rfl⟩) fun _ _ => .inl rfl)

theorem connect (hg : g.Forest) {source target : NodeId} (h : g.connect source target = .ok g') :
    g'.Forest := by
  obtain ⟨hplain, htarget, rfl | ⟨hnew, rfl⟩⟩ := of_connect h
  · exact hg
  · refine hg.of_keepsTrees (keepsTrees_modify hg (fun _ => ⟨rfl, rfl, rfl, rfl⟩) fun n hn => ?_)
    rw [neighbors_eq hn] at hnew
    have hnodup : n.neighbors.Nodup := neighbors_eq hn ▸ hg.nodup source
    refine .inr ⟨hplain, fun m hm => ?_, ?_⟩
    · rcases List.mem_append.1 hm with hm | hm
      · exact hg.neighbor_lt (by rwa [neighbors_eq hn])
      · exact List.mem_singleton.1 hm ▸ htarget
    · exact List.nodup_append.2 ⟨hnodup, List.nodup_singleton _, fun a ha b hb => by
        rintro rfl
        exact hnew (List.mem_singleton.1 hb ▸ ha)⟩

private theorem map_fst_eq_ok {α : Type} {r : Except Error (Graph × α)}
    (h : r.map Prod.fst = .ok g') : ∃ a, r = .ok (g', a) := by
  cases r with
  | error e => cases h
  | ok p => exact ⟨p.2, congrArg (fun g => Except.ok (g, p.2)) (Except.ok.inj h)⟩

theorem run (hg : g.Forest) {e : Edit} (h : e.run g = .ok g') : g'.Forest := by
  cases e with
  | add name kind =>
    obtain ⟨id, h⟩ := map_fst_eq_ok h
    cases (add_eq_ok_iff.1 h).2
    exact hg.of_keepsTrees (keepsTrees_push hg name kind)
  | setAttribute id key value => exact hg.setAttribute h
  | withAttribute id key value =>
    rw [Edit.run, map_fst_withAttribute] at h
    exact hg.setAttribute h
  | removeAttribute id key =>
    obtain ⟨old, h⟩ := map_fst_eq_ok h
    exact hg.removeAttribute h
  | connect source target => exact hg.connect h
  | addChild parent child =>
    obtain ⟨position, h⟩ := of_addChild h
    exact hg.insertChild h
  | insertChild parent position child => exact hg.insertChild h
  | removeChild parent child => exact hg.removeChild h
  | detach id =>
    obtain ⟨-, ⟨-, rfl⟩ | ⟨parent, -, h⟩⟩ := detach_eq_ok_iff.1 h
    · exact hg
    · exact hg.removeChild h

/-- A call adds a node where there is room for it, and no other call changes their number. -/
theorem size_run_le (hg : g.Forest) (hsize : g.size ≤ maxNodes) {e : Edit} (h : e.run g = .ok g') :
    g'.size ≤ maxNodes := by
  have hinserted : ∀ {parent position child}, g.insertChild parent position child = .ok g' →
      g'.size = g.size := by
    intro parent position child h
    obtain ⟨hinsert, rfl⟩ := insertChild_eq_ok_iff.1 h
    exact (hinsert.rearranged hg).size
  have hremoved : ∀ {parent child}, g.removeChild parent child = .ok g' → g'.size = g.size := by
    intro parent child h
    obtain ⟨-, hp, position, hi, rfl⟩ := removeChild_eq_ok_iff.1 h
    exact (hg.rearranged_release hp hi).size
  cases e with
  | add name kind =>
    obtain ⟨id, h⟩ := map_fst_eq_ok h
    obtain ⟨hroom, he⟩ := add_eq_ok_iff.1 h
    cases he
    rw [size_push]
    exact hroom
  | setAttribute id key value => rwa [of_setAttribute h, size_modify]
  | withAttribute id key value =>
    rw [Edit.run, map_fst_withAttribute] at h
    rwa [of_setAttribute h, size_modify]
  | removeAttribute id key =>
    obtain ⟨old, h⟩ := map_fst_eq_ok h
    rwa [of_removeAttribute h, size_modify]
  | connect source target =>
    obtain ⟨-, -, rfl | ⟨-, rfl⟩⟩ := of_connect h
    · exact hsize
    · rwa [size_modify]
  | addChild parent child =>
    obtain ⟨position, h⟩ := of_addChild h
    rwa [hinserted h]
  | insertChild parent position child => rwa [hinserted h]
  | removeChild parent child => rwa [hremoved h]
  | detach id =>
    obtain ⟨-, ⟨-, rfl⟩ | ⟨parent, -, h⟩⟩ := detach_eq_ok_iff.1 h
    · exact hsize
    · rwa [hremoved h]

theorem apply (hg : g.Forest) (e : Edit) : (e.apply g).Forest := by
  unfold Edit.apply
  cases h : e.run g with
  | error _ => exact hg
  | ok g' => exact hg.run h

theorem removeChild_ne_missingIndex (hg : g.Forest) (n : NodeId) :
    g.removeChild parent child ≠ .error (.missingIndex n) := by
  refine find_bind_ne_error nofun fun p _ => find_bind_ne_error nofun fun c hc => ?_
  refine check_ne_error nofun fun hp => ?_
  have hi := hg.index_of_parent ((parent_eq hc).trans (not_not.1 hp))
  rw [index_eq hc] at hi
  rw [hi]
  exact nofun

theorem insertChild_ne_missingIndex (g : Graph) (position : Nat) (n : NodeId) :
    g.insertChild parent position child ≠ .error (.missingIndex n) := by
  refine find_bind_ne_error nofun fun p _ => find_bind_ne_error nofun fun c _ => ?_
  refine check_ne_error nofun fun _ => check_ne_error nofun fun _ => ?_
  cases c.parent with
  | some other => exact nofun
  | none =>
    refine room_ne_error (fun _ => nofun) (check_ne_error nofun fun _ => ?_)
    exact check_ne_error nofun fun _ => nofun

theorem map_fst_ne_error {α : Type} {r : Except Error (Graph × α)} {e : Error} (h : r ≠ .error e) :
    r.map Prod.fst ≠ .error e := by
  cases r with
  | error e' => exact fun h' => h (congrArg Except.error (Except.error.inj h'))
  | ok p => exact fun h' => by cases h'

/-- No call on a forest misses the place of a child. -/
theorem run_ne_missingIndex (hg : g.Forest) (e : Edit) (n : NodeId) :
    e.run g ≠ .error (.missingIndex n) := by
  cases e with
  | add name kind =>
    refine map_fst_ne_error fun h => ?_
    by_cases hroom : g.size < maxNodes
    · cases h.symm.trans (add_eq_ok_iff.2 ⟨hroom, rfl⟩)
    · cases h.symm.trans (add_of_full (Nat.not_lt.1 hroom))
  | setAttribute id key value => exact find_bind_ne_error nofun fun _ _ => nofun
  | withAttribute id key value =>
    rw [Edit.run, map_fst_withAttribute]
    exact find_bind_ne_error nofun fun _ _ => nofun
  | removeAttribute id key =>
    exact map_fst_ne_error (find_bind_ne_error nofun fun _ _ => nofun)
  | connect source target =>
    refine find_bind_ne_error nofun fun _ _ => find_bind_ne_error nofun fun m _ => ?_
    refine check_ne_error nofun fun _ => ?_
    split <;> exact nofun
  | addChild parent child =>
    exact find_bind_ne_error nofun fun _ _ => insertChild_ne_missingIndex g _ n
  | insertChild parent position child => exact insertChild_ne_missingIndex g position n
  | removeChild parent child => exact hg.removeChild_ne_missingIndex n
  | detach id =>
    refine find_bind_ne_error nofun fun m _ => ?_
    cases m.parent with
    | none => exact nofun
    | some parent => exact hg.removeChild_ne_missingIndex n

end Forest

theorem forest_foldl {g : Graph} (hg : g.Forest) (edits : List Edit) :
    (edits.foldl Edit.apply g).Forest := by
  induction edits generalizing g with
  | nil => exact hg
  | cons e edits ih => exact ih (hg.apply e)

theorem Built.forest {g : Graph} (hg : g.Built) : g.Forest := by
  obtain ⟨edits, rfl⟩ := hg
  exact forest_foldl forest_empty edits

/-- No graph grows beyond its limit. -/
theorem Built.size_le {g : Graph} (hg : g.Built) : g.size ≤ maxNodes := by
  obtain ⟨edits, rfl⟩ := hg
  have hfoldl : ∀ g : Graph, g.Forest → g.size ≤ maxNodes →
      (edits.foldl Edit.apply g).size ≤ maxNodes := by
    induction edits with
    | nil => exact fun _ _ hsize => hsize
    | cons e edits ih =>
      intro g hg hsize
      refine ih _ (hg.apply e) ?_
      unfold Edit.apply
      cases h : e.run g with
      | error _ => exact hsize
      | ok g' => exact hg.size_run_le hsize h
  exact hfoldl empty forest_empty (Nat.zero_le _)

/-- The links, parents, places and depths of a graph agree. -/
structure Consistent (g : Graph) : Prop where
  neighbor_exists : ∀ id n, n ∈ g.neighbors id → n < g.size
  parent_exists : ∀ id p, g.parent id = some p → p < g.size
  neighbors_nodup : ∀ id, (g.neighbors id).Nodup
  tree_neighbor : ∀ id n, g.isTree id → n ∈ g.neighbors id → g.isTree n ∧ g.parent n = some id
  parent_iff_index : ∀ id, (g.parent id).isSome ↔ (g.index id).isSome
  place : ∀ id p i, g.parent id = some p → g.index id = some i →
    (g.children p).count id = 1 ∧ (g.children p)[i]? = some id
  plain : ∀ id, g.kind? id = some .plain → g.parent id = none ∧ g.index id = none
  depth_root : ∀ id, g.isTree id → g.parent id = none → g.depth id = some 0
  depth_child : ∀ id p, g.parent id = some p →
    ∃ d, g.depth p = some d ∧ g.depth id = some (d + 1)
  acyclic : ∀ id, ¬ Relation.TransGen g.Up id id
  binary : ∀ id, g.kind? id = some .binary → (g.children id).length ≤ 2

/-- The children of a parent hold the child once, at its place. -/
theorem Linked.place {g : Graph} (hg : g.Linked) {id p : NodeId} {i : Nat}
    (hp : g.parent id = some p) (hi : g.index id = some i) :
    (g.children p).count id = 1 ∧ (g.children p)[i]? = some id := by
  have hmem := hg.mem_neighbors hp
  rw [hg.index_of_parent hp] at hi
  rw [children_of_isTree (hg.isTree_parent hp), ← Option.some.inj hi]
  exact ⟨List.count_eq_one_of_mem (hg.nodup p) hmem, List.getElem?_idxOf hmem⟩

theorem Forest.consistent {g : Graph} (hg : g.Forest) : g.Consistent where
  neighbor_exists _ _ hn := hg.neighbor_lt hn
  parent_exists _ _ hp := lt_size_of_isTree (hg.isTree_parent hp)
  neighbors_nodup := hg.nodup
  tree_neighbor _ _ hid hn := ⟨(hg.child hid hn).1, hg.parent_of_mem hid hn⟩
  parent_iff_index id := by
    cases hp : g.parent id with
    | none => simp [hg.index hp]
    | some p => simp [hg.index_of_parent hp]
  place _ _ _ hp hi := hg.place hp hi
  plain id hk := by
    have hp : g.parent id = none := by
      rw [Option.eq_none_iff_forall_ne_some]
      intro p hp
      have hid := hg.isTree_of_parent hp
      rw [isTree, hk] at hid
      cases hid
    exact ⟨hp, hg.index hp⟩
  depth_root id hid hp := by rw [depth_eq, if_pos hid, hg.level_root hid hp]
  depth_child id p hp := by
    refine ⟨g.level p, ?_, ?_⟩
    · rw [depth_eq, if_pos (hg.isTree_parent hp)]
    · rw [depth_eq, if_pos (hg.isTree_of_parent hp), hg.level_child hp]
  acyclic := hg.acyclic
  binary id hk := by
    rw [children_eq]
    split
    · exact hg.binary hk
    · exact Nat.zero_le 2

/-- Whatever calls are made on the empty graph, and whichever of them are refused, the graph stays
consistent, and no further call finds a child without a place. -/
theorem build_consistent (edits : List Edit) :
    (build edits).Consistent ∧
      ∀ (e : Edit) (n : NodeId), e.run (build edits) ≠ .error (.missingIndex n) := by
  have hg := forest_foldl forest_empty edits
  exact ⟨hg.consistent, hg.run_ne_missingIndex⟩

end Graph

end GraphSelect
