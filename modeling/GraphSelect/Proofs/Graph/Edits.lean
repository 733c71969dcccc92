import GraphSelect.Proofs.Graph.Rearrange

/-!
# Forests under edits

A graph grows from the empty one by edits, each of which succeeds or is refused. What a
successful edit has checked and done is read off once; every edit then keeps the tree nodes a
forest, and so does every sequence of edits. In a forest each child has a place, so no edit ever
misses one.
-/
namespace GraphSelect.Graph

variable {g g' : Graph} {parent child id : NodeId}

theorem find_bind_eq_ok_iff {α : Type} {f : Node → Except Error α} {a : α} :
    (g.find id >>= f) = .ok a ↔ ∃ n, g.get? id = some n ∧ f n = .ok a := by
  unfold find
  cases g.get? id <;> simp [bind, Except.bind]

/-- A look-up that fails names the missing number and nothing else. -/
theorem find_bind_ne_error {α : Type} {f : Node → Except Error α} {e : Error}
    (he : ∀ n, e ≠ .nodeNotFound n) (hf : ∀ n, g.get? id = some n → f n ≠ .error e) :
    (g.find id >>= f) ≠ .error e := by
  unfold find
  cases h : g.get? id with
  | none => exact fun h => he id (Except.error.inj h).symm
  | some n => exact hf n h

theorem check_eq_ok_iff {α β : Type} {c : Prop} [Decidable c] {e : Error} {f : α → Except Error β}
    {rest : Except Error β} {b : β} :
    (if c then (throw e : Except Error α) >>= f else rest) = .ok b ↔ ¬ c ∧ rest = .ok b := by
  by_cases hc : c
  · rw [if_pos hc]
    exact ⟨nofun, fun h => absurd hc h.1⟩
  · rw [if_neg hc]
    exact ⟨fun h => ⟨hc, h⟩, And.right⟩

theorem check_ne_error {α β : Type} {c : Prop} [Decidable c] {e e' : Error}
    {f : α → Except Error β} {rest : Except Error β} (he : e ≠ e') (h : ¬ c → rest ≠ .error e') :
    (if c then (throw e : Except Error α) >>= f else rest) ≠ .error e' := by
  by_cases hc : c
  · rw [if_pos hc]
    exact fun h => he (Except.error.inj h)
  · rw [if_neg hc]
    exact h hc

theorem room_eq_ok_iff {α β : Type} {kind : Kind} {count : Nat} {e : Nat → Error}
    {f : α → Except Error β} {rest : Except Error β} {b : β} :
    (match kind.maxChildren with
      | some max => if count ≥ max then (throw (e max) : Except Error α) >>= f else rest
      | _ => rest) = .ok b ↔ (kind = .binary → count < 2) ∧ rest = .ok b := by
  cases kind with
  | binary => simp only [Kind.maxChildren, check_eq_ok_iff, ge_iff_le, Nat.not_le, forall_const]
  | plain | tree => simp [Kind.maxChildren]

theorem room_ne_error {α β : Type} {kind : Kind} {count : Nat} {e : Nat → Error} {e' : Error}
    {f : α → Except Error β} {rest : Except Error β} (he : ∀ max, e max ≠ e')
    (h : rest ≠ .error e') :
    (match kind.maxChildren with
      | some max => if count ≥ max then (throw (e max) : Except Error α) >>= f else rest
      | _ => rest) ≠ .error e' := by
  cases kind with
  | binary => exact check_ne_error (he 2) fun _ => h
  | plain | tree => exact h

theorem add_eq_ok_iff {name : String} {kind : Kind} {p : Graph × NodeId} :
    g.add name kind = .ok p ↔ g.size < maxNodes ∧ p = (g.push { name, kind }, g.size) := by
  rw [add, nextId]
  by_cases h : g.size < maxNodes
  · rw [if_pos h]
    exact ⟨fun hp => ⟨h, (Except.ok.inj hp).symm⟩, fun hp => congrArg Except.ok hp.2.symm⟩
  · rw [if_neg h]
    exact ⟨nofun, fun hp => absurd hp.1 h⟩

theorem add_of_full {name : String} {kind : Kind} (h : maxNodes ≤ g.size) :
    g.add name kind = .error (.contract (.graphFull g.size)) := by
  rw [add, nextId, if_neg (Nat.not_lt.2 h)]
  rfl

theorem of_setAttribute {key value : String} (h : g.setAttribute id key value = .ok g') :
    g' = g.modify id fun n => { n with attributes := n.attributes.insert key value } := by
  obtain ⟨n, -, h⟩ := find_bind_eq_ok_iff.1 h
  exact (Except.ok.inj h).symm

theorem map_fst_withAttribute (g : Graph) (id : NodeId) (key value : String) :
    (g.withAttribute id key value).map Prod.fst = g.setAttribute id key value := by
  unfold withAttribute
  cases g.setAttribute id key value <;> rfl

theorem of_removeAttribute {key : String} {old : Option String}
    (h : g.removeAttribute id key = .ok (g', old)) :
    g' = g.modify id fun n => { n with attributes := n.attributes.erase key } := by
  obtain ⟨n, -, h⟩ := find_bind_eq_ok_iff.1 h
  exact (congrArg Prod.fst (Except.ok.inj h)).symm

theorem of_connect {source target : NodeId} (h : g.connect source target = .ok g') :
    g.isTree source = false ∧ target < g.size ∧ (g' = g ∨ target ∉ g.neighbors source ∧
      g' = g.modify source fun n => { n with neighbors := n.neighbors ++ [target] }) := by
  obtain ⟨t, ht, h⟩ := find_bind_eq_ok_iff.1 h
  obtain ⟨n, hn, h⟩ := find_bind_eq_ok_iff.1 h
  obtain ⟨hkind, h⟩ := check_eq_ok_iff.1 h
  rw [isTree, kind?_eq hn, neighbors_eq hn]
  refine ⟨by simpa using hkind, lt_size_iff.2 ⟨t, ht⟩, ?_⟩
  split at h
  · exact .inl (Except.ok.inj h).symm
  · next hmem => exact .inr ⟨by simpa using hmem, (Except.ok.inj h).symm⟩

theorem insertChild_eq_ok_iff {position : Nat} :
    g.insertChild parent position child = .ok g' ↔
      g.Insertable parent position child ∧
        g' = g.attach parent position child (g.level parent + 1) := by
  rw [Graph.insertChild, find_bind_eq_ok_iff]
  constructor
  · rintro ⟨p, hp, h⟩
    obtain ⟨c, hc, h⟩ := find_bind_eq_ok_iff.1 h
    obtain ⟨hkind, h⟩ := check_eq_ok_iff.1 h
    obtain ⟨hne, h⟩ := check_eq_ok_iff.1 h
    have hkinds : p.kind.isTree ∧ c.kind.isTree := by simpa using hkind
    cases hroot : c.parent with
    | some other => rw [hroot] at h; cases h
    | none =>
      rw [hroot] at h
      obtain ⟨hroom, h⟩ := room_eq_ok_iff.1 h
      obtain ⟨hpos, h⟩ := check_eq_ok_iff.1 h
      obtain ⟨habove, h⟩ := check_eq_ok_iff.1 h
      rw [level_eq hp]
      refine ⟨⟨isTree_iff.2 ⟨p, hp, hkinds.1⟩, isTree_iff.2 ⟨c, hc, hkinds.2⟩, hne, ?_, ?_, ?_, ?_⟩,
        (Except.ok.inj h).symm⟩
      · rw [parent_eq hc, hroot]
      · rw [kind?_eq hp, neighbors_eq hp]
        exact fun hk => hroom (Option.some.inj hk)
      · rw [neighbors_eq hp]
        exact Nat.le_of_not_lt hpos
      · simpa using habove
  · rintro ⟨h, rfl⟩
    obtain ⟨p, hp, hpkind⟩ := isTree_iff.1 h.isTree_parent
    obtain ⟨c, hc, hckind⟩ := isTree_iff.1 h.isTree_child
    have hroot := h.root
    have hroom := h.room
    have hpos := h.position_le
    rw [parent_eq hc] at hroot
    rw [kind?_eq hp, neighbors_eq hp] at hroom
    rw [neighbors_eq hp] at hpos
    refine ⟨p, hp, find_bind_eq_ok_iff.2 ⟨c, hc, ?_⟩⟩
    refine check_eq_ok_iff.2 ⟨by simp [hpkind, hckind], check_eq_ok_iff.2 ⟨h.ne, ?_⟩⟩
    rw [hroot]
    refine room_eq_ok_iff.2 ⟨fun hk => hroom (congrArg some hk), ?_⟩
    refine check_eq_ok_iff.2 ⟨Nat.not_lt.2 hpos, check_eq_ok_iff.2 ⟨?_, ?_⟩⟩
    · simpa using h.notMem_ancestors
    · rw [level_eq hp]
      rfl

theorem of_addChild (h : g.addChild parent child = .ok g') :
    ∃ position, g.insertChild parent position child = .ok g' := by
  obtain ⟨p, -, h⟩ := find_bind_eq_ok_iff.1 h
  exact ⟨p.neighbors.length, h⟩

theorem removeChild_eq_ok_iff :
    g.removeChild parent child = .ok g' ↔
      parent < g.size ∧ g.parent child = some parent ∧
        ∃ position, g.index child = some position ∧ g' = g.release parent position child := by
  rw [Graph.removeChild, find_bind_eq_ok_iff]
  constructor
  · rintro ⟨p, hp, h⟩
    obtain ⟨c, hc, h⟩ := find_bind_eq_ok_iff.1 h
    obtain ⟨hparent, h⟩ := check_eq_ok_iff.1 h
    rw [parent_eq hc, index_eq hc]
    cases hi : c.index with
    | none => rw [hi] at h; cases h
    | some position =>
      rw [hi] at h
      exact ⟨lt_size_iff.2 ⟨p, hp⟩, not_not.1 hparent, position, rfl, (Except.ok.inj h).symm⟩
  · rintro ⟨hlt, hparent, position, hi, rfl⟩
    obtain ⟨p, hp⟩ := lt_size_iff.1 hlt
    obtain ⟨c, hc, hcp⟩ := Option.bind_eq_some_iff.1 hparent
    rw [index_eq hc] at hi
    refine ⟨p, hp, find_bind_eq_ok_iff.2 ⟨c, hc, check_eq_ok_iff.2 ⟨not_not.2 hcp, ?_⟩⟩⟩
    rw [hi]
    rfl

theorem detach_eq_ok_iff :
    g.detach id = .ok g' ↔ id < g.size ∧
      (g.parent id = none ∧ g' = g ∨
        ∃ parent, g.parent id = some parent ∧ g.removeChild parent id = .ok g') := by
  rw [Graph.detach, find_bind_eq_ok_iff, lt_size_iff, ← exists_and_right]
  refine exists_congr fun n => and_congr_right fun hn => ?_
  rw [parent_eq hn]
  cases n.parent with
  | none => simp [pure, Except.pure, eq_comm]
  | some parent => simp

/-- `h` differs from `g` in further nodes without links, in attributes, and in the links of plain
nodes, which stay inside the graph and are not repeated. -/
structure KeepsTrees (g h : Graph) : Prop where
  kind? : ∀ {id}, id < g.size → h.kind? id = g.kind? id
  parent : ∀ id, h.parent id = g.parent id
  index : ∀ id, h.index id = g.index id
  level : ∀ id, h.level id = g.level id
  neighbors : ∀ {id}, h.isTree id → h.neighbors id = g.neighbors id
  neighbor_lt : ∀ {id n}, n ∈ h.neighbors id → n < h.size
  nodup : ∀ id, (h.neighbors id).Nodup

theorem unknown_eq (hid : ¬ id < g.size) :
    g.neighbors id = [] ∧ g.parent id = none ∧ g.index id = none ∧ g.level id = 0 := by
  have hn : g.get? id = none := get?_eq_none_iff.2 (Nat.le_of_not_lt hid)
  simp [neighbors, Graph.parent, index, level, hn]

theorem KeepsTrees.isTree_eq {h : Graph} (hk : KeepsTrees g h) (hid : id < g.size) :
    h.isTree id = g.isTree id := by
  rw [isTree, isTree, hk.kind? hid]

theorem lt_size_of_mem_neighbors {n : NodeId} (hn : n ∈ g.neighbors id) : id < g.size := by
  by_contra hid
  rw [(unknown_eq hid).1] at hn
  cases hn

theorem Forest.of_keepsTrees {h : Graph} (hg : g.Forest) (hk : KeepsTrees g h) : h.Forest where
  neighbor_lt := hk.neighbor_lt
  nodup := hk.nodup
  child {id n} hid hn := by
    rw [hk.neighbors hid] at hn ⊢
    rw [hk.isTree_eq (lt_size_of_mem_neighbors hn)] at hid
    rw [hk.isTree_eq (hg.neighbor_lt hn), hk.parent, hk.index]
    exact hg.child hid hn
  parent {id p} hp := by
    rw [hk.parent] at hp
    have hpt := hg.isTree_parent hp
    have hpt' : h.isTree p := by rw [hk.isTree_eq (lt_size_of_isTree hpt), hpt]
    rw [mem_children, hk.neighbors hpt']
    exact ⟨hpt', hg.mem_neighbors hp⟩
  index {id} hp := by
    rw [hk.parent] at hp
    rw [hk.index, hg.index hp]
  binary {id} hkind := by
    have hid : h.isTree id := by simp [isTree, hkind, Kind.isTree]
    rw [hk.neighbors hid]
    by_cases hlt : id < g.size
    · rw [hk.kind? hlt] at hkind
      exact hg.binary hkind
    · simp [(unknown_eq hlt).1]
  level_root {id} hid hp := by
    rw [hk.parent] at hp
    rw [hk.level]
    by_cases hlt : id < g.size
    · rw [hk.isTree_eq hlt] at hid
      exact hg.level_root hid hp
    · exact (unknown_eq hlt).2.2.2
  level_child {id p} hp := by
    rw [hk.parent] at hp
    rw [hk.level, hk.level, hg.level_child hp]

/-- A look-up that takes a new node for an unknown one is not changed by adding it. -/
theorem field_push {α : Type} (field : Option Node → α) {n : Node}
    (hfield : field (some n) = field none) (id : NodeId) :
    field ((g.push n).get? id) = field (g.get? id) := by
  rw [get?_push]
  split
  · next h =>
    subst h
    rw [hfield, get?_eq_none_iff.2 (Nat.le_refl _)]
  · rfl

theorem keepsTrees_push (hg : g.Forest) (name : String) (kind : Kind) :
    KeepsTrees g (g.push { name, kind }) := by
  have hneighbors : ∀ id, (g.push { name, kind }).neighbors id = g.neighbors id :=
    field_push (·.elim [] Node.neighbors) rfl
  refine ⟨fun hid => ?_, field_push (·.bind Node.parent) rfl, field_push (·.bind Node.index) rfl,
    field_push (·.elim 0 Node.level) rfl, fun _ => hneighbors _, fun hn => ?_, fun id => ?_⟩
  · rw [Graph.kind?, get?_push, if_neg (Nat.ne_of_lt hid)]
    rfl
  · rw [hneighbors] at hn
    rw [size_push]
    exact Nat.lt_succ_of_lt (hg.neighbor_lt hn)
  · rw [hneighbors]
    exact hg.nodup id

theorem keepsTrees_modify (hg : g.Forest) {f : Node → Node}
    (hf : ∀ n, (f n).kind = n.kind ∧ (f n).parent = n.parent ∧ (f n).index = n.index ∧
      (f n).level = n.level)
    (hn : ∀ n, g.get? id = some n → (f n).neighbors = n.neighbors ∨
      g.isTree id = false ∧ (∀ m ∈ (f n).neighbors, m < g.size) ∧ (f n).neighbors.Nodup) :
    KeepsTrees g (g.modify id f) := by
  have hfield : ∀ {α : Type} (field : Option Node → α),
      (∀ n, field (some (f n)) = field (some n)) →
      ∀ n, field ((g.modify id f).get? n) = field (g.get? n) := by
    intro α field h n
    rw [get?_modify]
    split
    · cases g.get? n with
      | none => rfl
      | some m => exact h m
    · rfl
  have hkind : ∀ n, (g.modify id f).kind? n = g.kind? n :=
    hfield (·.map Node.kind) fun n => congrArg some (hf n).1
  have hneighbors : ∀ n, (g.modify id f).neighbors n = g.neighbors n ∨
      g.isTree n = false ∧ (∀ m ∈ (g.modify id f).neighbors n, m < g.size) ∧
        ((g.modify id f).neighbors n).Nodup := by
    intro n
    rw [neighbors, neighbors, get?_modify]
    split
    · next e =>
      subst e
      cases h : g.get? id with
      | none => exact .inl rfl
      | some m => exact hn m h
    · exact .inl rfl
  refine ⟨fun _ => hkind _, hfield (·.bind Node.parent) fun n => (hf n).2.1,
    hfield (·.bind Node.index) fun n => (hf n).2.2.1,
    hfield (·.elim 0 Node.level) fun n => (hf n).2.2.2, fun {n} ht => ?_, fun {n m} hm => ?_,
    fun n => ?_⟩
  · rw [isTree, hkind, ← isTree] at ht
    rcases hneighbors n with e | ⟨h, -⟩
    · exact e
    · exact absurd ht (by simp [h])
  · rw [size_modify]
    rcases hneighbors n with e | ⟨-, h, -⟩
    · exact hg.neighbor_lt (e ▸ hm)
    · exact h m hm
  · rcases hneighbors n with e | ⟨-, -, h⟩
    · exact e ▸ hg.nodup n
    · exact h

end GraphSelect.Graph
