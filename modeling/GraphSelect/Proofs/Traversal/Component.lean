import GraphSelect.Proofs.Traversal.Limit
import GraphSelect.Proofs.Traversal.Sortable

/-!
# Orders of what can be reached

What can be reached from a node holds with every node all that it depends on. So nothing but a cycle
keeps such nodes from being ordered, and those that cannot be ordered are the ones from which some
way leads to a cycle. Where there is an order the origin ends it, since all others are among its
dependencies. Trees have no cycles. A limit on the number of nodes is kept or else reported; a walk
that it has cut short is never ordered.
-/
namespace GraphSelect

namespace Graph

variable {g : Graph} {id : NodeId}

/-- A cycle among tree nodes would be one along their parents. -/
theorem Forest.not_onCycle (hg : g.Forest) (hid : g.isTree id) : ¬ g.OnCycle id := by
  intro hcycle
  obtain ⟨child, hlink, hback⟩ := Relation.TransGen.head'_iff.1 hcycle
  obtain ⟨hchild, hp, -⟩ := hg.child hid hlink
  exact hg.acyclic child (.head' hp (hg.up_of_reaches hchild hback))

end Graph

namespace BreadthFirst

theorem fresh_of_nodup {known l : List NodeId} (hl : l.Nodup) (hknown : ∀ n ∈ l, n ∉ known) :
    fresh known l = l := by
  induction l generalizing known with
  | nil => rfl
  | cons a l ih =>
    obtain ⟨ha, hl⟩ := List.nodup_cons.1 hl
    have hnew : known.contains a = false := by simpa using hknown a List.mem_cons_self
    have hrest : fresh (a :: known) l = l := by
      refine ih hl fun n hn hmem => ?_
      rcases List.mem_cons.1 hmem with rfl | hmem
      · exact ha hn
      · exact hknown n (List.mem_cons_of_mem a hn) hmem
    rw [fresh, hnew, if_neg Bool.false_ne_true, hrest]

end BreadthFirst

namespace DependencyOrder

variable {g : Graph} {origin last n : NodeId} {before nodes order left : List NodeId} {k : Nat}

/-- The last node of an order is the one from which all its nodes can be reached. -/
theorem Settled.eq_of_reaches (h : Settled g (last :: before)) (hnodup : (last :: before).Nodup)
    (horigin : origin ∈ last :: before) (hreach : g.Reaches origin last) : last = origin := by
  rcases List.mem_cons.1 horigin with heq | hbefore
  · exact heq.symm
  · exact absurd (h.2.mem_of_reaches hbefore hreach) (List.nodup_cons.1 hnodup).1

theorem exists_sort_eq_of_nodup (g : Graph) (hnodup : nodes.Nodup) :
    ∃ order left, Arranged g [] nodes order left ∧
      sort g nodes = if left = [] then .ok order else .error (.cycle left) := by
  obtain ⟨order, left, h, hrun⟩ : ∃ order left, Arranged g [] nodes order left ∧ _ :=
    exists_arranged trivial
  refine ⟨order, left, h, ?_⟩
  rw [sort, BreadthFirst.fresh_of_nodup hnodup fun _ _ => List.not_mem_nil, hrun]
  split <;> rfl

/-- Nothing that can be reached depends on anything that cannot. -/
theorem unsortable_iff (hnodes : ∀ n, n ∈ nodes ↔ g.Reaches origin n) (hn : g.Reaches origin n) :
    Unsortable g nodes n ↔ ∃ m, g.Reaches n m ∧ g.OnCycle m := by
  constructor
  · rintro ⟨m, hreach, hout | hcycle⟩
    · exact absurd ((hnodes m).2 (hn.trans hreach)) hout
    · exact ⟨m, hreach, hcycle⟩
  · rintro ⟨m, hreach, hcycle⟩
    exact ⟨m, hreach, .inr hcycle⟩

/-- A run on all that can be reached leaves the nodes from which a way leads to a cycle. -/
theorem Arranged.mem_left_iff_cycle
    (h : Arranged g [] (BreadthFirst.walk g none origin).order order left) :
    n ∈ left ↔ g.Reaches origin n ∧ ∃ m, g.Reaches n m ∧ g.OnCycle m := by
  have hnodes : ∀ n, n ∈ (BreadthFirst.walk g none origin).order ↔ g.Reaches origin n :=
    fun _ => Strategy.mem_walk_iff .breadthFirst
  rw [h.mem_left_iff (BreadthFirst.nodup_walk g none origin), hnodes]
  exact and_congr_right fun hn => unsortable_iff hnodes hn

theorem Arranged.left_eq_nil_iff
    (h : Arranged g [] (BreadthFirst.walk g none origin).order order left) :
    left = [] ↔ ∀ n, g.Reaches origin n → ¬ g.OnCycle n := by
  rw [List.eq_nil_iff_forall_not_mem]
  constructor
  · intro hnone n hn hcycle
    exact hnone n (h.mem_left_iff_cycle.2 ⟨hn, n, .refl, hcycle⟩)
  · intro hacyclic n hn
    obtain ⟨hreach, m, hm, hcycle⟩ := h.mem_left_iff_cycle.1 hn
    exact hacyclic m (hreach.trans hm) hcycle

/-- A run that leaves nothing orders all that can be reached, each node once and the origin last. -/
theorem Arranged.order_eq_component
    (h : Arranged g [] (BreadthFirst.walk g none origin).order order []) :
    order.Nodup ∧ (∀ n, n ∈ order ↔ g.Reaches origin n) ∧ order.getLast? = some origin := by
  have hperm := h.perm
  rw [List.append_nil] at hperm
  have hnodup : order.Nodup := hperm.nodup_iff.2 (BreadthFirst.nodup_walk g none origin)
  have hmem : ∀ n, n ∈ order ↔ g.Reaches origin n := fun n =>
    hperm.mem_iff.trans (Strategy.mem_walk_iff .breadthFirst)
  refine ⟨hnodup, hmem, ?_⟩
  have hsettled := h.settled_reverse
  have horigin := List.mem_reverse.2 ((hmem origin).2 .refl)
  have hreach : ∀ n ∈ order.reverse, g.Reaches origin n := fun n hn =>
    (hmem n).1 (List.mem_reverse.1 hn)
  rw [← List.head?_reverse]
  rw [← List.nodup_reverse] at hnodup
  -- Read backwards the order starts with its last node.
  cases hreverse : order.reverse with
  | nil =>
    rw [hreverse] at horigin
    cases horigin
  | cons last before =>
    rw [hreverse] at hsettled horigin hreach hnodup
    rw [List.head?_cons, hsettled.eq_of_reaches hnodup horigin (hreach last List.mem_cons_self)]

theorem sortFrom_none (ho : origin < g.size) :
    sortFrom g none origin = sort g (BreadthFirst.walk g none origin).order := by
  obtain ⟨n, hn⟩ := Graph.lt_size_iff.1 ho
  rw [sortFrom, Graph.find, hn]
  rfl

/-- A limit is kept by all that can be reached, and then it changes nothing, or it is reported. -/
theorem sortFrom_some (ho : origin < g.size) (k : Nat) :
    sortFrom g (some k) origin =
      if (g.reachable origin).card ≤ k then sortFrom g none origin
      else .error (.contract (.tooManyReachable k origin)) := by
  have hcut := BreadthFirst.cutAt_walk g k origin
  have hcard : (BreadthFirst.walk g none origin).order.length = (g.reachable origin).card :=
    Strategy.visited_walk .breadthFirst g origin
  have htruncated := hcut.truncated
  rw [hcard] at htruncated
  have hrun : sortFrom g (some k) origin =
      if (BreadthFirst.walk g (some k) origin).truncated then
        .error (.contract (.tooManyReachable k origin))
      else sort g (BreadthFirst.walk g (some k) origin).order := by
    obtain ⟨n, hn⟩ := Graph.lt_size_iff.1 ho
    rw [sortFrom, Graph.find, hn]
    change (if _ then _ else _) = _
    split <;> rfl
  rw [hrun, sortFrom_none ho]
  by_cases hk : (g.reachable origin).card ≤ k
  · rw [if_pos hk, if_neg (by rw [htruncated]; omega), hcut.order,
      List.take_of_length_le (by rwa [hcard])]
  · rw [if_neg hk, if_pos (by rw [htruncated]; omega)]

/-- Sorting what can be reached from a node succeeds exactly when no cycle can be reached, and
always when the node belongs to a tree. The order then holds what can be reached and ends with the
origin. Otherwise sorting fails with the nodes from which a way leads to a cycle, in breadth-first
order. Under a limit the outcome is the same when no more nodes than the limit can be reached, and
otherwise an error that says so. -/
theorem sortFrom_component (hg : g.Built) (ho : origin < g.size) :
    ((∃ order, sortFrom g none origin = .ok order) ↔
      ∀ n, g.Reaches origin n → ¬ g.OnCycle n) ∧
    (∀ order, sortFrom g none origin = .ok order →
      order.Nodup ∧ (∀ n, n ∈ order ↔ g.Reaches origin n) ∧ order.getLast? = some origin) ∧
    ((∃ n, g.Reaches origin n ∧ g.OnCycle n) →
      ∃ left, sortFrom g none origin = .error (.cycle left) ∧
        left.Sublist (BreadthFirst.walk g none origin).order ∧
        ∀ n, n ∈ left ↔ g.Reaches origin n ∧ ∃ m, g.Reaches n m ∧ g.OnCycle m) ∧
    (g.isTree origin → ∃ order, sortFrom g none origin = .ok order) ∧
    ∀ k, sortFrom g (some k) origin =
      if (g.reachable origin).card ≤ k then sortFrom g none origin
      else .error (.contract (.tooManyReachable k origin)) := by
  obtain ⟨order, left, h, hsort⟩ :=
    exists_sort_eq_of_nodup g (BreadthFirst.nodup_walk g none origin)
  rw [← sortFrom_none ho] at hsort
  have hok : (∃ order, sortFrom g none origin = .ok order) ↔
      ∀ n, g.Reaches origin n → ¬ g.OnCycle n := by
    rw [hsort, ← h.left_eq_nil_iff]
    by_cases hnil : left = [] <;> simp [hnil]
  refine ⟨hok, fun found hfound => ?_, fun ⟨n, hn, hcycle⟩ => ?_, fun htree => ?_,
    sortFrom_some ho⟩
  · have hnil : left = [] := h.left_eq_nil_iff.2 (hok.1 ⟨found, hfound⟩)
    subst hnil
    rw [hsort, if_pos rfl] at hfound
    cases hfound
    exact h.order_eq_component
  · have hne : left ≠ [] := fun hnil => h.left_eq_nil_iff.1 hnil n hn hcycle
    exact ⟨left, by rw [hsort, if_neg hne], h.sublist, fun n => h.mem_left_iff_cycle⟩
  · refine hok.2 fun n hn => ?_
    exact hg.forest.not_onCycle (hg.forest.isTree_of_reaches htree hn)

private def knot : Graph :=
  .build [.add "a" .plain, .add "b" .plain, .add "c" .plain, .add "leaf" .plain, .connect 0 1,
    .connect 1 2, .connect 2 1, .connect 2 3, .add "root" .tree, .add "child" .tree, .addChild 4 5]

/-- From the first node, it and the cycle cannot be ordered, but the leaf can; so can the tree. -/
theorem sortFrom_component_knot : Graph.Built knot ∧ 0 < knot.size ∧ 4 < knot.size ∧
    (∃ left, sortFrom knot none 0 = .error (.cycle left) ∧ 0 ∈ left ∧ 1 ∈ left ∧ 3 ∉ left) ∧
    ∃ order, sortFrom knot none 4 = .ok order ∧ 5 ∈ order ∧ order.getLast? = some 4 := by
  have hbuilt : Graph.Built knot := ⟨_, rfl⟩
  have hfirst : 0 < knot.size := by decide
  have htree : 4 < knot.size := by decide
  have hreach : knot.Reaches 0 1 := .single (by decide : 1 ∈ knot.neighbors 0)
  have hcycle : knot.OnCycle 1 :=
    .tail (.single (by decide : 2 ∈ knot.neighbors 1)) (by decide : 1 ∈ knot.neighbors 2)
  have hleaf : ∀ m, ¬ knot.Leads 3 m := by
    intro m
    rw [Graph.Leads, show knot.neighbors 3 = [] by decide]
    exact List.not_mem_nil
  obtain ⟨-, -, hfail, -, -⟩ := sortFrom_component hbuilt hfirst
  obtain ⟨left, hleft, -, hmem⟩ := hfail ⟨1, hreach, hcycle⟩
  obtain ⟨-, hok, -, htrees, -⟩ := sortFrom_component hbuilt htree
  obtain ⟨order, horder⟩ := htrees (by decide)
  obtain ⟨-, hall, hlast⟩ := hok order horder
  refine ⟨hbuilt, hfirst, htree, ⟨left, hleft, (hmem 0).2 ⟨.refl, 1, hreach, hcycle⟩,
    (hmem 1).2 ⟨hreach, 1, .refl, hcycle⟩, fun hthree => ?_⟩, order, horder, ?_, hlast⟩
  · obtain ⟨-, m, hm, hm'⟩ := (hmem 3).1 hthree
    rcases hm.cases_head with rfl | ⟨n, hn, -⟩
    · obtain ⟨n, hn, -⟩ := Relation.TransGen.head'_iff.1 hm'
      exact hleaf n hn
    · exact hleaf n hn
  · exact (hall 5).2 (.single (by decide : 5 ∈ knot.neighbors 4))

end DependencyOrder

end GraphSelect
