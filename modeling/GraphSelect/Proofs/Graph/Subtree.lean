import GraphSelect.Proofs.Graph.Forest

/-!
# Subtrees

The listing that sets the levels of a subtree keeps a list of nodes still to be visited and stops
after as many nodes as the graph has. In linked trees no node is listed twice, so the bound is
never what ends it: the listing holds the root, and with every node its children one level below.
-/
namespace GraphSelect.Graph

theorem length_le_of_nodup_of_lt {l : List NodeId} (hl : l.Nodup) {k : Nat} (h : ∀ n ∈ l, n < k) :
    l.length ≤ k := by
  rw [← List.toFinset_card_of_nodup hl, ← Finset.card_range k]
  exact Finset.card_le_card fun n hn => Finset.mem_range.2 (h n (List.mem_toFinset.1 hn))

theorem lookup_eq_some_iff {α : Type} {l : List (NodeId × α)} (hl : (l.map Prod.fst).Nodup)
    {k : NodeId} {a : α} : l.lookup k = some a ↔ (k, a) ∈ l := by
  induction l with
  | nil => simp
  | cons p l ih =>
    obtain ⟨k', a'⟩ := p
    rw [List.map_cons, List.nodup_cons] at hl
    by_cases h : k = k'
    · subst h
      have hk : (k, a) ∉ l := fun hm => hl.1 (List.mem_map.2 ⟨_, hm, rfl⟩)
      simp [hk, eq_comm]
    · have hb : (k == k') = false := by simpa using h
      simp [List.lookup_cons, hb, ih hl.2, h]

/-- What holds while a subtree is listed: `done` is the list so far, `pending` is what comes
next. -/
structure Listing (g : Graph) (root : NodeId) (level : Nat) (done pending : List (NodeId × Nat)) :
    Prop where
  nodup : ((done ++ pending).map Prod.fst).Nodup
  reached : ∀ {n l}, (n, l) ∈ done ++ pending → g.Reaches root n
  root_mem : (root, level) ∈ done ++ pending
  closed : ∀ {n l m}, (n, l) ∈ done → m ∈ g.neighbors n → (m, l + 1) ∈ done ++ pending
  origin : ∀ {m k}, (m, k) ∈ done ++ pending →
    m = root ∧ k = level ∨ ∃ n l, (n, l) ∈ done ∧ m ∈ g.neighbors n ∧ k = l + 1

/-- A root of linked trees is below no node of its own subtree. -/
def TopOf (g : Graph) (root : NodeId) : Prop := ∀ n, g.Reaches root n → root ∉ g.neighbors n

namespace Listing

variable {g : Graph} {root : NodeId} {level : Nat} {done rest : List (NodeId × Nat)}

theorem start (g : Graph) (root : NodeId) (level : Nat) : Listing g root level [] [(root, level)] where
  nodup := by simp
  reached h := by
    obtain ⟨rfl, -⟩ : _ ∧ _ := by simpa using h
    exact .refl
  root_mem := by simp
  closed h := by simp at h
  origin h := .inl (by simpa using h)

/-- Each listed node hangs under a node listed before it, unless it is the root. -/
theorem parent_mem (hg : g.Linked) (hroot : g.isTree root) {pending : List (NodeId × Nat)}
    (h : Listing g root level done pending) {m : NodeId} {k : Nat} (hm : (m, k) ∈ done ++ pending)
    (hne : m ≠ root) : ∃ n l, (n, l) ∈ done ∧ g.parent m = some n := by
  rcases h.origin hm with ⟨rfl, -⟩ | ⟨n, l, hn, hmn, -⟩
  · exact absurd rfl hne
  · have htree := hg.isTree_of_reaches hroot (h.reached (List.mem_append_left pending hn))
    exact ⟨n, l, hn, hg.parent_of_mem htree hmn⟩

/-- A child of the next node was not listed before: it would hang under an earlier node too. -/
theorem not_mem_of_neighbor (hg : g.Linked) (hroot : g.isTree root) (htop : g.TopOf root)
    {id l : Nat} (h : Listing g root level done ((id, l) :: rest)) {m : NodeId}
    (hm : m ∈ g.neighbors id) : m ∉ (done ++ (id, l) :: rest).map Prod.fst := by
  intro hmem
  have hreach : g.Reaches root id := h.reached (l := l) (by simp)
  obtain ⟨⟨m', k⟩, hk, rfl⟩ := List.mem_map.1 hmem
  have hne : m' ≠ root := by
    rintro rfl
    exact htop id hreach hm
  obtain ⟨n, j, hn, hp⟩ := h.parent_mem hg hroot hk hne
  have he : n = id := by
    have := hg.parent_of_mem (hg.isTree_of_reaches hroot hreach) hm
    simpa [hp] using this
  subst he
  have hnd := h.nodup
  rw [List.map_append, List.map_cons, List.nodup_append] at hnd
  exact hnd.2.2 n (List.mem_map_of_mem hn) n (by simp) rfl

theorem mem_step_iff {id l : Nat} {p : NodeId × Nat} :
    p ∈ (done ++ [(id, l)]) ++ ((g.neighbors id).map (·, l + 1) ++ rest) ↔
      p ∈ done ++ (id, l) :: rest ∨ ∃ m ∈ g.neighbors id, p = (m, l + 1) := by
  simp only [List.mem_append, List.mem_cons, List.not_mem_nil, or_false, List.mem_map, eq_comm]
  generalize (∃ m ∈ g.neighbors id, p = (m, l + 1)) = below
  tauto

theorem perm_step (g : Graph) (done rest : List (NodeId × Nat)) (id l : Nat) :
    (((done ++ [(id, l)]) ++ ((g.neighbors id).map (·, l + 1) ++ rest)).map Prod.fst).Perm
      (g.neighbors id ++ (done ++ (id, l) :: rest).map Prod.fst) := by
  have e : ((g.neighbors id).map (·, l + 1)).map Prod.fst = g.neighbors id := by
    rw [List.map_map]
    exact List.map_id _
  simp only [List.map_append, e]
  simpa using List.perm_append_comm_assoc ((done ++ [(id, l)]).map Prod.fst) (g.neighbors id)
    (rest.map Prod.fst)

/-- Listing the next node and putting its children before the rest keeps what holds. -/
theorem step (hg : g.Linked) (hroot : g.isTree root) (htop : g.TopOf root) {id l : Nat}
    (h : Listing g root level done ((id, l) :: rest)) :
    Listing g root level (done ++ [(id, l)]) ((g.neighbors id).map (·, l + 1) ++ rest) where
  nodup := by
    rw [(perm_step g done rest id l).nodup_iff, List.nodup_append]
    refine ⟨hg.nodup id, h.nodup, fun a ha b hb e => ?_⟩
    exact h.not_mem_of_neighbor hg hroot htop ha (e ▸ hb)
  reached hn := by
    rcases mem_step_iff.1 hn with hn | ⟨m, hm, he⟩
    · exact h.reached hn
    · cases he
      exact (h.reached (l := l) (by simp)).tail hm
  root_mem := mem_step_iff.2 (.inl h.root_mem)
  closed hn hm := by
    rw [List.mem_append, List.mem_singleton] at hn
    rcases hn with hn | hn
    · exact mem_step_iff.2 (.inl (h.closed hn hm))
    · cases hn
      exact mem_step_iff.2 (.inr ⟨_, hm, rfl⟩)
  origin hm := by
    rcases mem_step_iff.1 hm with hm | ⟨child, hchild, he⟩
    · rcases h.origin hm with he | ⟨n, j, hn, hr⟩
      · exact .inl he
      · exact .inr ⟨n, j, List.mem_append_left _ hn, hr⟩
    · cases he
      exact .inr ⟨id, l, by simp, hchild, rfl⟩

/-- The nodes that come next may come in any order. -/
theorem perm {pending pending' : List (NodeId × Nat)} (hp : pending.Perm pending')
    (h : Listing g root level done pending) : Listing g root level done pending' := by
  have happend := hp.append_left done
  exact {
    nodup := (happend.map Prod.fst).nodup_iff.1 h.nodup
    reached := fun hn => h.reached (happend.mem_iff.2 hn)
    root_mem := happend.mem_iff.1 h.root_mem
    closed := fun hn hm => happend.mem_iff.1 (h.closed hn hm)
    origin := fun hm => h.origin (happend.mem_iff.2 hm) }

theorem length_le (hg : g.Linked) (hroot : g.isTree root) {pending : List (NodeId × Nat)}
    (h : Listing g root level done pending) : done.length + pending.length ≤ g.size := by
  have hlt : ∀ n ∈ (done ++ pending).map Prod.fst, n < g.size := by
    intro n hn
    obtain ⟨p, hp, rfl⟩ := List.mem_map.1 hn
    exact lt_size_of_isTree (hg.isTree_of_reaches hroot (h.reached hp))
  have hlen := length_le_of_nodup_of_lt h.nodup hlt
  rwa [List.length_map, List.length_append] at hlen

theorem finish (hg : g.Linked) (hroot : g.isTree root) (htop : g.TopOf root) {steps : Nat}
    {pending : List (NodeId × Nat)} (h : Listing g root level done pending)
    (hs : g.size ≤ done.length + steps) :
    Listing g root level (done ++ g.levelsFrom steps pending) [] := by
  induction steps generalizing done pending with
  | zero =>
    have hlen := h.length_le hg hroot
    have hp : pending = [] := List.length_eq_zero_iff.1 (by omega)
    subst hp
    simpa [levelsFrom] using h
  | succ steps ih =>
    cases pending with
    | nil => simpa [levelsFrom] using h
    | cons p rest =>
      obtain ⟨id, l⟩ := p
      have := ih (h.step hg hroot htop) (by simp; omega)
      rwa [List.append_assoc] at this

end Listing

variable {g : Graph} {root : NodeId}

/-- The levels of a subtree: every node once, the root at the given level, and with every node its
children one level below and nothing else. -/
theorem listing_subtreeLevels (hg : g.Linked) (hroot : g.isTree root) (htop : g.TopOf root)
    (level : Nat) : Listing g root level (g.subtreeLevels root level) [] := by
  have h : Listing g root level ([] ++ g.levelsFrom g.size [(root, level)]) [] :=
    (Listing.start g root level).finish hg hroot htop (by simp)
  simpa [subtreeLevels] using h

theorem lookup_subtreeLevels_iff (hg : g.Linked) (hroot : g.isTree root) (htop : g.TopOf root)
    {level l : Nat} {n : NodeId} :
    (g.subtreeLevels root level).reverse.lookup n = some l ↔ (n, l) ∈ g.subtreeLevels root level := by
  have hnd := (listing_subtreeLevels hg hroot htop level).nodup
  rw [List.append_nil] at hnd
  rw [lookup_eq_some_iff (by rwa [List.map_reverse, List.nodup_reverse]), List.mem_reverse]

end GraphSelect.Graph
