import GraphSelect.Proofs.Traversal.Limit
import GraphSelect.Proofs.Traversal.Sortable
import Mathlib.Algebra.BigOperators.Group.Finset.Basic
import Mathlib.Order.Bounds.Basic

/-!
# Breadth-first walks go level by level

The first level holds the origin; each further one holds the neighbors of the nodes of the level
before it that no earlier level holds. A level holds the nodes at one distance from the origin. When
all nodes of the levels before some level have been visited, the queue of the walk holds the nodes
of this level; visiting them leaves the next level in the queue. Since no node is visited twice, the
levels are empty from some level on, and there the walk ends.
-/
namespace GraphSelect

namespace Graph

variable {g : Graph} {origin m n : NodeId} {i j k : Nat}

inductive Way (g : Graph) (origin : NodeId) : Nat → NodeId → Prop
  | here : Way g origin 0 origin
  | step {k : Nat} {m n : NodeId} (h : Way g origin k m) (hlink : g.Leads m n) :
      Way g origin (k + 1) n

theorem way_zero_iff : g.Way origin 0 n ↔ n = origin := by
  constructor
  · rintro ⟨⟩
    rfl
  · rintro rfl
    exact .here

theorem way_succ_iff : g.Way origin (k + 1) n ↔ ∃ m, g.Way origin k m ∧ g.Leads m n := by
  constructor
  · rintro (_ | ⟨h, hlink⟩)
    exact ⟨_, h, hlink⟩
  · rintro ⟨m, h, hlink⟩
    exact .step h hlink

def Distance (g : Graph) (origin n : NodeId) (k : Nat) : Prop := IsLeast {i | g.Way origin i n} k

theorem distance_iff : g.Distance origin n k ↔ g.Way origin k n ∧ ∀ i < k, ¬ g.Way origin i n := by
  refine and_congr_right fun _ => forall_congr' fun i => ?_
  rw [← not_lt, Set.mem_ofPred_eq, imp_not_comm]

end Graph

namespace BreadthFirst

variable {g : Graph} {origin m n : NodeId} {known known' l row next done : List NodeId} {k : Nat}

mutual

def before (g : Graph) (origin : NodeId) : Nat → List NodeId
  | 0 => []
  | k + 1 => before g origin k ++ level g origin k

/-- The origin; then, level by level, the neighbors of the nodes of the level before, in order and
without repetitions, that are in no earlier level. -/
def level (g : Graph) (origin : NodeId) : Nat → List NodeId
  | 0 => [origin]
  | k + 1 => (((level g origin k).flatMap g.neighbors).filter
      (!(before g origin k ++ level g origin k).contains ·)).eraseDups

end

theorem before_eq_flatMap (g : Graph) (origin : NodeId) (k : Nat) :
    before g origin k = (List.range k).flatMap (level g origin) := by
  induction k with
  | zero => rfl
  | succ k ih => rw [before, ih, List.range_succ, List.flatMap_append, List.flatMap_singleton]

theorem mem_level_succ_iff :
    n ∈ level g origin (k + 1) ↔
      (∃ m ∈ level g origin k, g.Leads m n) ∧ n ∉ before g origin (k + 1) := by
  simp [level, before, Graph.Leads]

/-- A level holds the nodes at one distance, and the levels before it those at shorter ones. -/
theorem mem_before_and_level (g : Graph) (origin : NodeId) (k : Nat) :
    (∀ n, n ∈ before g origin k ↔ ∃ i < k, g.Way origin i n) ∧
      ∀ n, n ∈ level g origin k ↔ g.Distance origin n k := by
  induction k with
  | zero => simp [before, level, Graph.distance_iff, Graph.way_zero_iff]
  | succ k ih =>
    obtain ⟨ihbefore, ihlevel⟩ := ih
    have hbefore : ∀ n, n ∈ before g origin (k + 1) ↔ ∃ i < k + 1, g.Way origin i n := by
      intro n
      rw [before, List.mem_append, ihbefore, ihlevel, Graph.distance_iff]
      constructor
      · rintro (⟨i, hi, hway⟩ | ⟨hway, -⟩)
        · exact ⟨i, Nat.lt_succ_of_lt hi, hway⟩
        · exact ⟨k, Nat.lt_succ_self k, hway⟩
      · rintro ⟨i, hi, hway⟩
        by_cases hshort : ∃ j < k, g.Way origin j n
        · exact .inl hshort
        · push Not at hshort
          obtain rfl : i = k := by
            by_contra hne
            exact hshort i (by omega) hway
          exact .inr ⟨hway, hshort⟩
    refine ⟨hbefore, fun n => ?_⟩
    rw [mem_level_succ_iff, hbefore, Graph.distance_iff, Graph.way_succ_iff]
    constructor
    · rintro ⟨⟨m, hm, hlink⟩, hshort⟩
      push Not at hshort
      exact ⟨⟨m, (Graph.distance_iff.1 ((ihlevel m).1 hm)).1, hlink⟩, hshort⟩
    · rintro ⟨⟨m, hway, hlink⟩, hshort⟩
      -- A shorter way to `m` would make one to `n`.
      have hm : g.Distance origin m k :=
        Graph.distance_iff.2 ⟨hway, fun i hi hway' => hshort (i + 1) (by omega) (hway'.step hlink)⟩
      refine ⟨⟨m, (ihlevel m).2 hm, hlink⟩, ?_⟩
      push Not
      exact hshort

theorem mem_before_iff : n ∈ before g origin k ↔ ∃ i < k, g.Way origin i n :=
  (mem_before_and_level g origin k).1 n

theorem mem_level_iff : n ∈ level g origin k ↔ g.Distance origin n k :=
  (mem_before_and_level g origin k).2 n

/-- Along the levels the distance does not decrease. -/
theorem pairwise_distance_before (g : Graph) (origin : NodeId) (k : Nat) :
    (before g origin k).Pairwise fun m n =>
      ∀ i j, g.Distance origin m i → g.Distance origin n j → i ≤ j := by
  induction k with
  | zero => exact .nil
  | succ k ih =>
    have hlevel : ∀ {n j}, n ∈ level g origin k → g.Distance origin n j → j = k :=
      fun hn hj => hj.unique (mem_level_iff.1 hn)
    refine List.pairwise_append.2 ⟨ih, List.pairwise_of_forall_mem_list ?_, ?_⟩
    · intro m hm n hn i j hi hj
      rw [hlevel hm hi, hlevel hn hj]
    · intro m hm n hn i j hi hj
      obtain ⟨i', hlt, hway⟩ := mem_before_iff.1 hm
      have hle : i ≤ i' := hi.2 hway
      have hj := hlevel hn hj
      omega

/-- Which nodes are known matters, and not in which order. -/
theorem fresh_congr (h : ∀ n, n ∈ known ↔ n ∈ known') (l : List NodeId) :
    fresh known l = fresh known' l := by
  rw [fresh_eq_eraseDups, fresh_eq_eraseDups]
  congr 1
  exact List.filter_congr fun n _ => by simp [h n]

/-- The new nodes of the second part of a list are those that the first part does not make known. -/
theorem fresh_append (known l l' : List NodeId) :
    fresh known (l ++ l') = fresh known l ++ fresh (known ++ fresh known l) l' := by
  induction l generalizing known with
  | nil => simp [fresh]
  | cons a l ih =>
    rw [List.cons_append, fresh, fresh]
    split
    · exact ih known
    · rw [ih, List.cons_append]
      congr 2
      exact fresh_congr (fun n => by simp [or_left_comm]) l'

def linkCount (g : Graph) (l : List NodeId) : Nat := (l.flatMap g.neighbors).length

/-- Visiting the nodes in front of the queue puts their new neighbors at its end. -/
theorem visit_append (g : Graph) (done row next : List NodeId) (edges : Nat) :
    visit g none done (row ++ next) edges =
      visit g none (row.reverse ++ done)
        (next ++ fresh (done ++ row ++ next) (row.flatMap g.neighbors))
        (edges + linkCount g row) := by
  induction row generalizing done next edges with
  | nil => simp [fresh, linkCount]
  | cons a row ih =>
    set found := fresh (a :: (done ++ (row ++ next))) (g.neighbors a) with hfound
    have hstep : visit g none done (a :: (row ++ next)) edges =
        visit g none (a :: done) (row ++ (next ++ found)) (edges + (g.neighbors a).length) := by
      rw [visit, limitReached_none, if_neg Bool.false_ne_true, ← hfound, List.append_assoc]
    have hknown : fresh (done ++ a :: row ++ next) ((a :: row).flatMap g.neighbors) =
        found ++ fresh (a :: done ++ row ++ (next ++ found)) (row.flatMap g.neighbors) := by
      have hsame : ∀ n, n ∈ done ++ a :: row ++ next ↔ n ∈ a :: (done ++ (row ++ next)) :=
        fun n => by simp [or_left_comm]
      rw [List.flatMap_cons, fresh_append, fresh_congr hsame, ← hfound]
      congr 1
      exact fresh_congr (fun n => by simp [or_left_comm]) _
    rw [List.cons_append, hstep, ih, hknown]
    congr 1
    · simp
    · simp
    · simp [linkCount, Nat.add_assoc]

/-- When the levels before some level have been visited, this level is the queue. -/
theorem walk_eq_visit_level (g : Graph) (origin : NodeId) (k : Nat) :
    walk g none origin = visit g none (before g origin k).reverse (level g origin k)
      (linkCount g (before g origin k)) := by
  induction k with
  | zero => rfl
  | succ k ih =>
    have hrow := visit_append g (before g origin k).reverse (level g origin k) []
      (linkCount g (before g origin k))
    have hnext : fresh ((before g origin k).reverse ++ level g origin k ++ [])
        ((level g origin k).flatMap g.neighbors) = level g origin (k + 1) := by
      rw [level, ← fresh_eq_eraseDups]
      exact fresh_congr (fun n => by simp) _
    rw [List.append_nil, hnext, List.nil_append] at hrow
    rw [ih, hrow, before, List.reverse_append]
    congr 1
    simp [linkCount]

theorem level_eq_nil_of_le {i : Nat} (h : level g origin k = []) (hi : k ≤ i) :
    level g origin i = [] := by
  induction i, hi using Nat.le_induction with
  | base => exact h
  | succ i _ ih => simp [level, ih]

/-- Some level is empty, since the levels before it are visited. -/
theorem exists_level_eq_nil (g : Graph) (origin : NodeId) : ∃ k, level g origin k = [] := by
  by_contra hne
  push Not at hne
  have hlength : ∀ k, k ≤ (before g origin k).length := by
    intro k
    induction k with
    | zero => exact Nat.zero_le _
    | succ k ih =>
      have hpos := List.length_pos_iff.2 (hne k)
      rw [before, List.length_append]
      omega
  have hvisit : ∀ k, (before g origin k).length ≤ (walk g none origin).order.length := by
    intro k
    rw [walk_eq_visit_level g origin k, ← List.length_reverse]
    have hvisited : (before g origin k).reverse.reverse <+: (visit g none
        (before g origin k).reverse (level g origin k) (linkCount g (before g origin k))).order :=
      prefix_visit
    simpa using hvisited.length_le
  have h := (hlength ((walk g none origin).order.length + 1)).trans (hvisit _)
  omega

theorem walk_eq_of_level_eq_nil (h : level g origin k = []) :
    walk g none origin = ⟨before g origin k, linkCount g (before g origin k), false⟩ := by
  rw [walk_eq_visit_level g origin k, h, visit, List.reverse_reverse]

theorem edges_walk (g : Graph) (origin : NodeId) :
    (walk g none origin).edges = linkCount g (walk g none origin).order := by
  obtain ⟨k, hk⟩ := exists_level_eq_nil g origin
  rw [walk_eq_of_level_eq_nil hk]

/-- The walk without a limit finds the accepted nodes of the levels, one level after the other; from
some level on there are none. A level holds the nodes at its distance from the origin. So each node
that can be reached and is accepted is found once, and the distance does not decrease from a found
node to a later one. The walk visits all nodes that can be reached and looks at all their links. -/
theorem found_walk_eq_levels (g : Graph) (origin : NodeId) (accept : NodeId → Bool) :
    (∃ k, (∀ i, k ≤ i → level g origin i = []) ∧ (walk g none origin).found accept =
        ((List.range k).flatMap (level g origin)).filter accept) ∧
      (∀ i n, n ∈ level g origin i ↔ g.Distance origin n i) ∧
      ((walk g none origin).found accept).Nodup ∧
      (∀ n, n ∈ (walk g none origin).found accept ↔ g.Reaches origin n ∧ accept n) ∧
      ((walk g none origin).found accept).Pairwise (fun m n =>
        ∀ i j, g.Distance origin m i → g.Distance origin n j → i ≤ j) ∧
      (walk g none origin).visited = (g.reachable origin).card ∧
      (walk g none origin).edges = ∑ n ∈ g.reachable origin, (g.neighbors n).length := by
  have hnodup := nodup_walk g none origin
  obtain ⟨k, hk⟩ := exists_level_eq_nil g origin
  have horder : (walk g none origin).order = before g origin k := by
    rw [walk_eq_of_level_eq_nil hk]
  refine ⟨⟨k, fun i hi => level_eq_nil_of_le hk hi, ?_⟩, fun _ _ => mem_level_iff,
    hnodup.filter accept, fun n => ?_, ?_, Strategy.visited_walk .breadthFirst g origin, ?_⟩
  · rw [Walk.found, horder, before_eq_flatMap]
  · rw [Walk.found, List.mem_filter]
    exact and_congr_left fun _ => Strategy.mem_walk_iff .breadthFirst
  · rw [Walk.found, horder]
    exact (pairwise_distance_before g origin k).filter accept
  · have hsum := List.sum_toFinset (fun n => (g.neighbors n).length) hnodup
    have hfinset : (walk g none origin).order.toFinset = g.reachable origin :=
      Strategy.toFinset_walk .breadthFirst
    rw [edges_walk, linkCount, List.length_flatMap, ← hsum, hfinset]

end BreadthFirst

end GraphSelect
