import GraphSelect.Proofs.Graph.Links
import GraphSelect.Traversal.Strategy
import Mathlib.Data.Set.Finite.Basic

/-!
# What the walks visit

Both walks visit nodes that can be reached from the origin, and no node twice. Without a limit
they visit all of them: a list of visited nodes that holds the origin and, with every node, its
neighbors, holds all that can be reached. The breadth-first walk keeps the neighbors of visited
nodes visited or waiting; the depth-first walk keeps the neighbors of the nodes it has left
entered.
-/
namespace GraphSelect

namespace Graph

variable {g : Graph} {a b n : NodeId}

theorem Reaches.head (h : n ∈ g.neighbors a) (hn : g.Reaches n b) : g.Reaches a b :=
  Relation.ReflTransGen.head h hn

theorem Reaches.mem_of_closed {l : List NodeId} (hl : ∀ a ∈ l, ∀ n ∈ g.neighbors a, n ∈ l)
    (h : g.Reaches a b) (ha : a ∈ l) : b ∈ l := by
  induction h with
  | refl => exact ha
  | tail _ hlink ih => exact hl _ ih _ hlink

end Graph

namespace BreadthFirst

variable {g : Graph} {limit : Option Nat} {done queue known l : List NodeId} {edges : Nat}
  {origin n : NodeId}

theorem nodup_fresh (known l : List NodeId) : (fresh known l).Nodup := by
  induction l generalizing known with
  | nil => exact List.nodup_nil
  | cons a l ih =>
    rw [fresh]
    split
    · exact ih known
    · refine List.nodup_cons.2 ⟨fun ha => ?_, ih _⟩
      exact (mem_fresh.1 ha).2 List.mem_cons_self

theorem reaches_of_mem_visit (h : n ∈ (visit g limit done queue edges).order) :
    n ∈ done ∨ ∃ q ∈ queue, g.Reaches q n := by
  induction done, queue, edges using visit.induct g limit with
  | case1 done edges =>
    rw [visit] at h
    exact .inl (List.mem_reverse.1 h)
  | case2 done edges current rest hlimit =>
    rw [visit, if_pos hlimit] at h
    exact .inl (List.mem_reverse.1 h)
  | case3 done edges current rest hlimit ih =>
    rw [visit, if_neg hlimit] at h
    have hcurrent : current ∈ current :: rest := List.mem_cons_self
    rcases ih h with hdone | ⟨q, hq, hreach⟩
    · rcases List.mem_cons.1 hdone with rfl | hdone
      · exact .inr ⟨n, hcurrent, .refl⟩
      · exact .inl hdone
    · rcases List.mem_append.1 hq with hq | hq
      · exact .inr ⟨q, List.mem_cons_of_mem _ hq, hreach⟩
      · exact .inr ⟨current, hcurrent, hreach.head (mem_fresh.1 hq).1⟩

theorem nodup_visit (h : (done ++ queue).Nodup) : (visit g limit done queue edges).order.Nodup := by
  induction done, queue, edges using visit.induct g limit with
  | case1 done edges =>
    rw [visit]
    simpa using h
  | case2 done edges current rest hlimit =>
    rw [visit, if_pos hlimit]
    exact List.nodup_reverse.2 (List.nodup_append.1 h).1
  | case3 done edges current rest hlimit ih =>
    rw [visit, if_neg hlimit]
    apply ih
    have hknown : (current :: (done ++ rest)).Nodup := List.nodup_middle.1 h
    rw [List.cons_append, ← List.append_assoc, ← List.cons_append, List.nodup_append]
    refine ⟨hknown, nodup_fresh _ _, fun a ha b hb => ?_⟩
    rintro rfl
    exact (mem_fresh.1 hb).2 ha

/-- Without a limit, a walk whose visited nodes have all their neighbors visited or waiting ends
with a closed list of nodes. -/
theorem closed_visit (h : ∀ a ∈ done, ∀ n ∈ g.neighbors a, n ∈ done ++ queue) :
    (∀ n ∈ done ++ queue, n ∈ (visit g none done queue edges).order) ∧
      ∀ a ∈ (visit g none done queue edges).order, ∀ n ∈ g.neighbors a,
        n ∈ (visit g none done queue edges).order := by
  induction done, queue, edges using visit.induct g none with
  | case1 done edges =>
    rw [visit]
    simpa using h
  | case2 done edges current rest hlimit => cases hlimit
  | case3 done edges current rest hlimit ih =>
    rw [visit, if_neg hlimit]
    have hsub : ∀ n ∈ done ++ current :: rest,
        n ∈ (current :: done) ++ (rest ++ fresh (current :: (done ++ rest)) (g.neighbors current)) := by
      intro n hn
      simp only [List.mem_append, List.mem_cons] at hn ⊢
      tauto
    obtain ⟨hall, hclosed⟩ := ih (by
      intro a ha n hn
      rcases List.mem_cons.1 ha with rfl | ha
      · by_cases hk : n ∈ a :: (done ++ rest)
        · apply hsub
          simp only [List.mem_append, List.mem_cons] at hk ⊢
          tauto
        · have hf := mem_fresh.2 ⟨hn, hk⟩
          simp only [List.mem_append, List.mem_cons]
          tauto
      · exact hsub n (h a ha n hn))
    exact ⟨fun n hn => hall n (hsub n hn), hclosed⟩

theorem reaches_of_mem_walk (h : n ∈ (walk g limit origin).order) : g.Reaches origin n := by
  rcases reaches_of_mem_visit h with hn | ⟨q, hq, hn⟩
  · cases hn
  · rwa [List.mem_singleton.1 hq] at hn

theorem nodup_walk (g : Graph) (limit : Option Nat) (origin : NodeId) :
    (walk g limit origin).order.Nodup := nodup_visit (List.nodup_singleton origin)

theorem mem_walk_of_reaches (h : g.Reaches origin n) : n ∈ (walk g none origin).order := by
  obtain ⟨hall, hclosed⟩ := @closed_visit g [] [origin] 0 nofun
  exact h.mem_of_closed hclosed (hall origin List.mem_cons_self)

end BreadthFirst

namespace DepthFirst

variable {g : Graph} {limit : Option Nat} {entered path : List NodeId} {edges : Nat}
  {origin n : NodeId}

theorem reaches_of_mem_follow (h : n ∈ (follow g limit entered path edges).order) :
    n ∈ entered ∨ ∃ q ∈ path, g.Reaches q n := by
  induction entered, path, edges using follow.induct g limit with
  | case1 entered edges =>
    rw [follow] at h
    exact .inl (List.mem_reverse.1 h)
  | case2 entered edges top below hnext ih =>
    rw [follow, hnext] at h
    rcases ih h with hn | ⟨q, hq, hreach⟩
    · exact .inl hn
    · exact .inr ⟨q, List.mem_cons_of_mem _ hq, hreach⟩
  | case3 entered edges top below next hnext hlimit =>
    rw [follow, hnext] at h
    simp only [if_pos hlimit] at h
    exact .inl (List.mem_reverse.1 h)
  | case4 entered edges top below next hnext more hlimit ih =>
    rw [follow, hnext] at h
    simp only [if_neg hlimit] at h
    have hlink := List.mem_of_find?_eq_some hnext
    have htop : top ∈ top :: below := List.mem_cons_self
    rcases ih h with hn | ⟨q, hq, hreach⟩
    · rcases List.mem_cons.1 hn with rfl | hn
      · exact .inr ⟨top, htop, .single hlink⟩
      · exact .inl hn
    · rcases List.mem_cons.1 hq with rfl | hq
      · exact .inr ⟨top, htop, hreach.head hlink⟩
      · exact .inr ⟨q, hq, hreach⟩

theorem nodup_follow (h : entered.Nodup) : (follow g limit entered path edges).order.Nodup := by
  induction entered, path, edges using follow.induct g limit with
  | case1 entered edges =>
    rw [follow]
    exact List.nodup_reverse.2 h
  | case2 entered edges top below hnext ih =>
    rw [follow, hnext]
    exact ih h
  | case3 entered edges top below next hnext hlimit =>
    rw [follow, hnext]
    simp only [if_pos hlimit]
    exact List.nodup_reverse.2 h
  | case4 entered edges top below next hnext more hlimit ih =>
    rw [follow, hnext]
    simp only [if_neg hlimit]
    have hnew : next ∉ entered := by simpa using List.find?_some hnext
    exact ih (List.nodup_cons.2 ⟨hnew, h⟩)

/-- Without a limit, a walk that has entered the neighbors of all nodes off its path ends with a
closed list of nodes. -/
theorem closed_follow (h : ∀ a ∈ entered, a ∉ path → ∀ n ∈ g.neighbors a, n ∈ entered) :
    (∀ n ∈ entered, n ∈ (follow g none entered path edges).order) ∧
      ∀ a ∈ (follow g none entered path edges).order, ∀ n ∈ g.neighbors a,
        n ∈ (follow g none entered path edges).order := by
  induction entered, path, edges using follow.induct g none with
  | case1 entered edges =>
    rw [follow]
    simpa using h
  | case2 entered edges top below hnext ih =>
    rw [follow, hnext]
    apply ih
    intro a ha hbelow n hn
    by_cases hatop : a = top
    · subst hatop
      simpa using List.find?_eq_none.1 hnext n hn
    · exact h a ha (by simp [hatop, hbelow]) n hn
  | case3 entered edges top below next hnext hlimit => cases hlimit
  | case4 entered edges top below next hnext more hlimit ih =>
    rw [follow, hnext]
    simp only [if_neg hlimit]
    obtain ⟨hall, hclosed⟩ := ih (by
      intro a ha hpath n hn
      rw [List.mem_cons, not_or] at hpath
      have ha : a ∈ entered := (List.mem_cons.1 ha).resolve_left hpath.1
      exact List.mem_cons_of_mem _ (h a ha hpath.2 n hn))
    exact ⟨fun n hn => hall n (List.mem_cons_of_mem _ hn), hclosed⟩

theorem reaches_of_mem_walk (h : n ∈ (walk g limit origin).order) : g.Reaches origin n := by
  unfold walk at h
  split at h
  · cases h
  · rcases reaches_of_mem_follow h with hn | ⟨q, hq, hn⟩
    · rw [List.mem_singleton.1 hn]
      exact .refl
    · rwa [List.mem_singleton.1 hq] at hn

theorem nodup_walk (g : Graph) (limit : Option Nat) (origin : NodeId) :
    (walk g limit origin).order.Nodup := by
  unfold walk
  split
  · exact List.nodup_nil
  · exact nodup_follow (List.nodup_singleton origin)

theorem mem_walk_of_reaches (h : g.Reaches origin n) : n ∈ (walk g none origin).order := by
  obtain ⟨hall, hclosed⟩ := @closed_follow g [origin] [origin] 0 fun a ha hpath => absurd ha hpath
  exact h.mem_of_closed hclosed (hall origin List.mem_cons_self)

end DepthFirst

namespace Strategy

variable {g : Graph} {limit : Option Nat} {origin n : NodeId}

theorem reaches_of_mem_walk (strategy : Strategy)
    (h : n ∈ (strategy.walk g limit origin).order) : g.Reaches origin n := by
  cases strategy with
  | breadthFirst => exact BreadthFirst.reaches_of_mem_walk h
  | depthFirst => exact DepthFirst.reaches_of_mem_walk h

theorem nodup_walk (strategy : Strategy) (g : Graph) (limit : Option Nat) (origin : NodeId) :
    (strategy.walk g limit origin).order.Nodup := by
  cases strategy with
  | breadthFirst => exact BreadthFirst.nodup_walk g limit origin
  | depthFirst => exact DepthFirst.nodup_walk g limit origin

/-- A walk without a limit visits exactly what can be reached from its origin. -/
theorem mem_walk_iff (strategy : Strategy) :
    n ∈ (strategy.walk g none origin).order ↔ g.Reaches origin n := by
  refine ⟨strategy.reaches_of_mem_walk, fun h => ?_⟩
  cases strategy with
  | breadthFirst => exact BreadthFirst.mem_walk_of_reaches h
  | depthFirst => exact DepthFirst.mem_walk_of_reaches h

end Strategy

namespace Graph

theorem finite_reaches (g : Graph) (origin : NodeId) : {n | g.Reaches origin n}.Finite := by
  refine (Strategy.walk .breadthFirst g none origin).order.finite_toSet.subset fun n hn => ?_
  exact (Strategy.mem_walk_iff .breadthFirst).2 hn

noncomputable def reachable (g : Graph) (origin : NodeId) : Finset NodeId :=
  (g.finite_reaches origin).toFinset

@[simp] theorem mem_reachable {g : Graph} {origin n : NodeId} :
    n ∈ g.reachable origin ↔ g.Reaches origin n := by
  simp [reachable]

end Graph

namespace Strategy

variable {g : Graph} {origin : NodeId}

theorem toFinset_walk (strategy : Strategy) :
    (strategy.walk g none origin).order.toFinset = g.reachable origin := by
  ext n
  rw [List.mem_toFinset, strategy.mem_walk_iff, Graph.mem_reachable]

/-- A walk without a limit visits as many nodes as can be reached. -/
theorem visited_walk (strategy : Strategy) (g : Graph) (origin : NodeId) :
    (strategy.walk g none origin).visited = (g.reachable origin).card := by
  rw [← strategy.toFinset_walk, List.toFinset_card_of_nodup (strategy.nodup_walk g none origin)]
  rfl

end Strategy

end GraphSelect
