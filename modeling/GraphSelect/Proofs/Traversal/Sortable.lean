import GraphSelect.Proofs.Graph.Built
import GraphSelect.Proofs.Traversal.Coverage
import GraphSelect.Traversal.DependencyOrder
import Mathlib.Data.Set.Finite.List

/-!
# Which nodes can be ordered

An order of dependencies takes nodes whose dependencies have been taken. What has been taken is
closed under links and holds no cycle, so from a taken node no way leads out of the given nodes or
into a cycle. Where nothing more can be taken, every node that is left depends on another one that
is left, or on a node that is not given. Following the first kind of dependency forever goes in a
circle, since there are finitely many nodes. So the nodes that are left are exactly those from
which some way leads out of the given nodes or to a cycle.
-/
namespace GraphSelect

namespace Graph

variable {g : Graph} {n : NodeId}

def OnCycle (g : Graph) (n : NodeId) : Prop := Relation.TransGen g.Leads n n

/-- Among finitely many nodes that each lead to another of them, one is on a cycle. -/
theorem exists_onCycle {p : NodeId → Prop} (hfinite : {a | p a}.Finite)
    (hnext : ∀ a, p a → ∃ b ∈ g.neighbors a, p b) (hn : p n) : ∃ m, p m ∧ g.OnCycle m := by
  by_contra hno
  -- Without a cycle the links among these nodes are well-founded, and some node has none.
  let below (b a : {a // p a}) : Prop := Relation.TransGen g.Leads a.1 b.1
  have : Finite {a // p a} := hfinite.to_subtype
  have : IsTrans {a // p a} below := ⟨fun _ _ _ hab hbc => hbc.trans hab⟩
  have : Std.Irrefl below := ⟨fun a ha => hno ⟨a.1, a.2, ha⟩⟩
  have hwf : WellFounded below := Finite.wellFounded_of_trans_of_irrefl below
  obtain ⟨⟨a, ha⟩, -, hmin⟩ := hwf.has_min Set.univ ⟨⟨n, hn⟩, trivial⟩
  obtain ⟨b, hlink, hb⟩ := hnext a ha
  exact hmin ⟨b, hb⟩ trivial (.single hlink)

end Graph

namespace BreadthFirst

theorem fresh_eq_eraseDups (known l : List NodeId) :
    fresh known l = (l.filter (!known.contains ·)).eraseDups := by
  induction l generalizing known with
  | nil => rfl
  | cons a l ih =>
    rw [fresh, List.filter_cons]
    by_cases ha : known.contains a
    · rw [if_pos ha, ih, ha]
      rfl
    · rw [if_neg ha, ih, if_pos (by simpa using ha), List.eraseDups_cons, List.filter_filter]
      congr 3
      funext b
      by_cases hb : b = a <;> simp [hb]

theorem fresh_nil (l : List NodeId) : fresh [] l = l.eraseDups := by
  rw [fresh_eq_eraseDups]
  simp

end BreadthFirst

namespace DependencyOrder

variable {g : Graph} {taken remaining order left nodes l : List NodeId} {m n : NodeId}

def Settled (g : Graph) : List NodeId → Prop
  | [] => True
  | n :: before => (∀ m ∈ g.neighbors n, m ∈ before) ∧ Settled g before

theorem ready_iff : ready g taken n ↔ ∀ m ∈ g.neighbors n, m ∈ taken := by
  simp [ready]

namespace Settled

theorem neighbor_mem (h : Settled g l) (hn : n ∈ l) (hm : m ∈ g.neighbors n) : m ∈ l := by
  induction l with
  | nil => cases hn
  | cons a before ih =>
    rcases List.mem_cons.1 hn with rfl | hn
    · exact List.mem_cons_of_mem _ (h.1 m hm)
    · exact List.mem_cons_of_mem _ (ih h.2 hn)

theorem mem_of_reaches (h : Settled g l) (hn : n ∈ l) (hm : g.Reaches n m) : m ∈ l :=
  hm.mem_of_closed (fun _ ha _ hb => h.neighbor_mem ha hb) hn

theorem not_onCycle (h : Settled g l) (hl : l.Nodup) (hn : n ∈ l) : ¬ g.OnCycle n := by
  induction l with
  | nil => cases hn
  | cons a before ih =>
    obtain ⟨ha, hbefore⟩ := List.nodup_cons.1 hl
    rcases List.mem_cons.1 hn with rfl | hn
    · -- The first step of a cycle leads to the nodes behind, and these lead to themselves only.
      intro hcycle
      obtain ⟨m, hlink, hback⟩ := Relation.TransGen.head'_iff.1 hcycle
      exact ha (h.2.mem_of_reaches (h.1 m hlink) hback)
    · exact ih h.2 hbefore hn

end Settled

theorem arrange_cons (g : Graph) (taken : List NodeId) (first : NodeId) (rest : List NodeId) :
    arrange g taken (first :: rest) =
      match (first :: rest).find? (ready g taken) with
      | none => .error (first :: rest)
      | some n => (arrange g (n :: taken) ((first :: rest).erase n)).map (n :: ·) := by
  rw [arrange]
  split
  · next hnone => rw [hnone]
  · next n hsome => rw [hsome]

/-- What a run makes of the remaining nodes: `order` has been taken behind `taken`, and nothing of
`left` can be taken next. -/
structure Arranged (g : Graph) (taken remaining order left : List NodeId) : Prop where
  settled : Settled g (order.reverse ++ taken)
  perm : (order ++ left).Perm remaining
  sublist : left.Sublist remaining
  stuck : ∀ n ∈ left, ready g (order.reverse ++ taken) n = false

theorem Arranged.cons (h : Arranged g (n :: taken) (remaining.erase n) order left)
    (hn : n ∈ remaining) : Arranged g taken remaining (n :: order) left := by
  have hreverse : (n :: order).reverse ++ taken = order.reverse ++ n :: taken := by simp
  refine ⟨?_, ?_, h.sublist.trans List.erase_sublist, ?_⟩
  · rw [hreverse]
    exact h.settled
  · exact (h.perm.cons n).trans (List.perm_cons_erase hn).symm
  · rw [hreverse]
    exact h.stuck

theorem exists_arranged (h : Settled g taken) :
    ∃ order left, Arranged g taken remaining order left ∧
      arrange g taken remaining = if left = [] then .ok order else .error left := by
  induction taken, remaining using arrange.induct g with
  | case1 taken =>
    refine ⟨[], [], ⟨h, .refl _, .refl _, nofun⟩, ?_⟩
    rw [arrange]
    rfl
  | case2 taken first rest hnone =>
    refine ⟨[], first :: rest, ⟨h, .refl _, .refl _, fun n hn => ?_⟩, ?_⟩
    · exact Bool.eq_false_iff.2 (List.find?_eq_none.1 hnone n hn)
    · rw [arrange_cons, hnone]
      rfl
  | case3 taken first rest n hsome ih =>
    have hmem := List.mem_of_find?_eq_some hsome
    have hready := ready_iff.1 (List.find?_some hsome)
    obtain ⟨order, left, harranged, hrun⟩ := ih ⟨hready, h⟩
    refine ⟨n :: order, left, harranged.cons hmem, ?_⟩
    rw [arrange_cons, hsome]
    dsimp only
    rw [hrun]
    split <;> rfl

/-- From a node some way leads out of the given nodes or to a node on a cycle. -/
def Unsortable (g : Graph) (nodes : List NodeId) (n : NodeId) : Prop :=
  ∃ m, g.Reaches n m ∧ (m ∉ nodes ∨ g.OnCycle m)

namespace Arranged

variable (h : Arranged g [] remaining order left)

include h

theorem mem_iff : n ∈ remaining ↔ n ∈ order ∨ n ∈ left := by
  rw [← h.perm.mem_iff, List.mem_append]

theorem settled_reverse : Settled g order.reverse := by
  have hsettled := h.settled
  rwa [List.append_nil] at hsettled

theorem not_unsortable (hnodup : remaining.Nodup) (hn : n ∈ order) :
    ¬ Unsortable g remaining n := by
  rintro ⟨m, hreach, hm⟩
  have hsettled := h.settled_reverse
  have hm' : m ∈ order.reverse := hsettled.mem_of_reaches (List.mem_reverse.2 hn) hreach
  have horder : order.reverse.Nodup :=
    List.nodup_reverse.2 (h.perm.nodup_iff.2 hnodup).of_append_left
  rcases hm with hout | hcycle
  · exact hout (h.mem_iff.2 (.inl (List.mem_reverse.1 hm')))
  · exact hsettled.not_onCycle horder hm' hcycle

/-- What is left depends on something that has not been taken. -/
theorem exists_neighbor (hn : n ∈ left) : ∃ m ∈ g.neighbors n, m ∉ order := by
  have hstuck := h.stuck n hn
  rw [List.append_nil, ← Bool.not_eq_true, ready_iff] at hstuck
  push Not at hstuck
  simpa using hstuck

theorem unsortable (hn : n ∈ left) : Unsortable g remaining n := by
  by_contra hsortable
  have hnext : ∀ a, a ∈ left ∧ g.Reaches n a → ∃ b ∈ g.neighbors a, b ∈ left ∧ g.Reaches n b := by
    rintro a ⟨ha, hreach⟩
    obtain ⟨b, hlink, hb⟩ := h.exists_neighbor ha
    have hreach' : g.Reaches n b := hreach.tail hlink
    have hin : b ∈ remaining := by
      by_contra hout
      exact hsortable ⟨b, hreach', .inl hout⟩
    exact ⟨b, hlink, (h.mem_iff.1 hin).resolve_left hb, hreach'⟩
  have hfinite : {a | a ∈ left ∧ g.Reaches n a}.Finite :=
    left.finite_toSet.subset fun _ ha => ha.1
  obtain ⟨m, ⟨-, hreach⟩, hcycle⟩ := Graph.exists_onCycle hfinite hnext ⟨hn, .refl⟩
  exact hsortable ⟨m, hreach, .inr hcycle⟩

theorem mem_left_iff (hnodup : remaining.Nodup) :
    n ∈ left ↔ n ∈ remaining ∧ Unsortable g remaining n := by
  constructor
  · exact fun hn => ⟨h.mem_iff.2 (.inr hn), h.unsortable hn⟩
  · rintro ⟨hn, hun⟩
    exact (h.mem_iff.1 hn).resolve_left fun ho => h.not_unsortable hnodup ho hun

end Arranged

theorem unsortable_congr (h : ∀ n, n ∈ l ↔ n ∈ nodes) :
    Unsortable g l n ↔ Unsortable g nodes n := by
  simp only [Unsortable, h]

/-- Nodes can be ordered unless from one of them a way leads out of the given nodes or to a cycle.
Otherwise sorting fails with the nodes from which such a way leads, each once and in the order of
the input; each of them depends on another one of them, or on a node that is not given. -/
theorem sort_ok_iff_sortable (g : Graph) (nodes : List NodeId) :
    ((∃ order, sort g nodes = .ok order) ↔ ∀ n ∈ nodes, ¬ Unsortable g nodes n) ∧
      ((∃ n ∈ nodes, Unsortable g nodes n) →
        ∃ left, sort g nodes = .error (.cycle left) ∧ left ≠ [] ∧
          left.Sublist nodes.eraseDups ∧
          (∀ n, n ∈ left ↔ n ∈ nodes ∧ Unsortable g nodes n) ∧
          ∀ n ∈ left, ∃ m ∈ g.neighbors n, m ∉ nodes ∨ m ∈ left) := by
  obtain ⟨order, left, h, hrun⟩ : ∃ order left, Arranged g [] nodes.eraseDups order left ∧ _ :=
    exists_arranged trivial
  have hnodup : nodes.eraseDups.Nodup := BreadthFirst.fresh_nil nodes ▸ BreadthFirst.nodup_fresh _ _
  have hmem : ∀ n, n ∈ nodes.eraseDups ↔ n ∈ nodes := fun n => List.mem_eraseDups
  have hleft : ∀ n, n ∈ left ↔ n ∈ nodes ∧ Unsortable g nodes n := by
    intro n
    rw [h.mem_left_iff hnodup, hmem, unsortable_congr hmem]
  have hsort : sort g nodes = if left = [] then .ok order else .error (.cycle left) := by
    rw [sort, BreadthFirst.fresh_nil, hrun]
    split <;> rfl
  have hempty : left = [] ↔ ∀ n ∈ nodes, ¬ Unsortable g nodes n := by
    rw [List.eq_nil_iff_forall_not_mem]
    simp only [hleft, not_and]
  constructor
  · rw [← hempty, hsort]
    by_cases he : left = [] <;> simp [he]
  · rintro ⟨n, hn, hun⟩
    have hne : left ≠ [] := fun he => hempty.1 he n hn hun
    refine ⟨left, by rw [hsort, if_neg hne], hne, h.sublist, hleft, fun n hn => ?_⟩
    obtain ⟨m, hlink, hm⟩ := h.exists_neighbor hn
    refine ⟨m, hlink, or_iff_not_imp_left.2 fun hin => ?_⟩
    exact (h.mem_iff.1 ((hmem m).2 (not_not.1 hin))).resolve_left hm

private def blocked : Graph :=
  .build [.add "a" .plain, .add "b" .plain, .add "c" .plain, .add "d" .plain, .add "e" .plain,
    .connect 0 1, .connect 1 0, .connect 2 0, .connect 3 4]

/-- Of a list with repetitions, the cycle and the two nodes that depend on it or on a missing node
are left; a node of no graph is ordered. -/
theorem sort_blocked : (∃ n ∈ [3, 2, 9, 3, 0, 1, 9], Unsortable blocked [3, 2, 9, 3, 0, 1, 9] n) ∧
    sort blocked [3, 2, 9, 3, 0, 1, 9] = .error (.cycle [3, 2, 0, 1]) ∧
    Unsortable blocked [3, 2, 9, 3, 0, 1, 9] 2 ∧ ¬ Unsortable blocked [3, 2, 9, 3, 0, 1, 9] 9 := by
  have hlink : 4 ∈ blocked.neighbors 3 := by decide
  have hun : ∃ n ∈ [3, 2, 9, 3, 0, 1, 9], Unsortable blocked [3, 2, 9, 3, 0, 1, 9] n :=
    ⟨3, by decide, 4, .single hlink, .inl (by decide)⟩
  have hsort : sort blocked [3, 2, 9, 3, 0, 1, 9] = .error (.cycle [3, 2, 0, 1]) := by cbv
  obtain ⟨left, hrun, -, -, hleft, -⟩ := (sort_ok_iff_sortable blocked [3, 2, 9, 3, 0, 1, 9]).2 hun
  rw [hsort] at hrun
  cases hrun
  have htwo := (hleft 2).1 (by decide)
  have hnine := mt (hleft 9).2 (by decide)
  exact ⟨hun, hsort, htwo.2, fun h => hnine ⟨by decide, h⟩⟩

end DependencyOrder

end GraphSelect
