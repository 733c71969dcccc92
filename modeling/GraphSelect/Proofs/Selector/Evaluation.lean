import GraphSelect.Proofs.Graph.Built
import GraphSelect.Proofs.Traversal.Coverage
import GraphSelect.Selector.Query

/-!
# Running stages

Every stage drops the repetitions of what it finds. When it does so makes no difference: a row of
stages run from several nodes finds, in the same order, what it finds from each of them, with later
repetitions dropped once at the end. This rests on two laws of lists: a repetition may be dropped
before or after the members of a list are expanded, and within the expansion of a member or behind
it.
-/
namespace GraphSelect

section

variable {l : List NodeId}

/-- Induction along the way in which repetitions are dropped: behind the first member its
repetitions are taken away. -/
@[elab_as_elim]
theorem eraseDups_induction {motive : List NodeId → Prop} (nil : motive [])
    (cons : ∀ a l, motive (l.filter fun b => !b == a) → motive (a :: l)) (l : List NodeId) :
    motive l := by
  induction h : l.length using Nat.strong_induction_on generalizing l with
  | h k ih =>
    cases l with
    | nil => exact nil
    | cons a l =>
      have hlt : (l.filter fun b => !b == a).length < k := by
        have := List.length_filter_le (fun b => !b == a) l
        rw [List.length_cons] at h
        omega
      exact cons a l (ih _ hlt _ rfl)

theorem nodup_eraseDups (l : List NodeId) : l.eraseDups.Nodup := by
  induction l using eraseDups_induction with
  | nil => exact List.nodup_nil
  | cons a l ih =>
    rw [List.eraseDups_cons]
    exact List.nodup_cons.2 ⟨by simp, ih⟩

theorem eraseDups_of_nodup (h : l.Nodup) : l.eraseDups = l := by
  induction l with
  | nil => rfl
  | cons a l ih =>
    obtain ⟨ha, hl⟩ := List.nodup_cons.1 h
    have hfilter : (l.filter fun b => !b == a) = l := by
      rw [List.filter_eq_self]
      intro b hb
      have hne : b ≠ a := ne_of_mem_of_not_mem hb ha
      simp [hne]
    rw [List.eraseDups_cons, hfilter, ih hl]

theorem eraseDups_filter (p : NodeId → Bool) (l : List NodeId) :
    (l.filter p).eraseDups = l.eraseDups.filter p := by
  induction l using eraseDups_induction with
  | nil => rfl
  | cons a l ih =>
    rw [List.eraseDups_cons, List.filter_cons, List.filter_cons, ← ih]
    split
    · rw [List.eraseDups_cons, List.filter_comm]
    · next ha =>
      -- Nothing equal to `a` passes the filter, so taking `a` away first changes nothing.
      rw [List.filter_filter]
      congr 1
      refine List.filter_congr fun b _ => ?_
      by_cases hb : b = a
      · simp [hb, ha]
      · simp [hb]

theorem removeAll_congr {a b : List NodeId} (l : List NodeId) (h : ∀ n, n ∈ a ↔ n ∈ b) :
    l.removeAll a = l.removeAll b :=
  List.filter_congr fun n _ => by simp [h n]

theorem eraseDups_removeAll (l a : List NodeId) :
    (l.removeAll a).eraseDups = l.eraseDups.removeAll a := eraseDups_filter _ l

/-- Repetitions within the expansion of a member may be dropped first. -/
theorem eraseDups_flatMap_eraseDups_comp (f : NodeId → List NodeId) (l : List NodeId) :
    (l.flatMap fun n => (f n).eraseDups).eraseDups = (l.flatMap f).eraseDups := by
  induction l with
  | nil => rfl
  | cons a l ih =>
    rw [List.flatMap_cons, List.flatMap_cons, List.eraseDups_append, List.eraseDups_append,
      eraseDups_removeAll, eraseDups_removeAll, ih, eraseDups_of_nodup (nodup_eraseDups (f a))]
    rw [removeAll_congr _ fun n => List.mem_eraseDups]

/-- The expansion of a member that is met again adds nothing. -/
theorem removeAll_flatMap_filter (f : NodeId → List NodeId) (a : NodeId) (l : List NodeId) :
    ((l.filter fun b => !b == a).flatMap f).removeAll (f a) = (l.flatMap f).removeAll (f a) := by
  induction l with
  | nil => rfl
  | cons b l ih =>
    have hcons : ((b :: l).flatMap f).removeAll (f a) =
        (f b).removeAll (f a) ++ (l.flatMap f).removeAll (f a) := by
      rw [List.flatMap_cons]
      exact List.filter_append _ _
    rw [hcons, List.filter_cons]
    by_cases hb : b = a
    · subst hb
      have hself : (f b).removeAll (f b) = [] := by simp [List.removeAll]
      rw [hself, List.nil_append, ← ih]
      simp
    · have hne : (!b == a) = true := by simp [hb]
      rw [if_pos hne, List.flatMap_cons, ← ih]
      exact List.filter_append _ _

/-- Repetitions among the members may be dropped before the members are expanded. -/
theorem eraseDups_flatMap_eraseDups (f : NodeId → List NodeId) (l : List NodeId) :
    (l.eraseDups.flatMap f).eraseDups = (l.flatMap f).eraseDups := by
  induction l using eraseDups_induction with
  | nil => rfl
  | cons a l ih =>
    rw [List.eraseDups_cons, List.flatMap_cons, List.flatMap_cons, List.eraseDups_append,
      List.eraseDups_append, eraseDups_removeAll, ih, ← eraseDups_removeAll,
      removeAll_flatMap_filter]

end

variable {g : Graph} {source target n : NodeId}

theorem Graph.Linked.lt_size_of_reaches (hg : g.Linked) (h : g.Reaches source target)
    (hs : source < g.size) : target < g.size := by
  cases h with
  | refl => exact hs
  | tail _ hlink => exact hg.neighbor_lt hlink

namespace Search

variable {stages : List Stage} {found : List NodeId}

theorem run_append (s : Search) (stages rest : List Stage) (found : List NodeId) :
    s.run (stages ++ rest) found = s.run rest (s.run stages found) := by
  induction stages generalizing found with
  | nil => rw [List.nil_append, run]
  | cons stage stages ih => rw [List.cons_append, run, run, ih]

theorem run_nil (s : Search) (stages : List Stage) : s.run stages [] = [] := by
  induction stages with
  | nil => rw [run]
  | cons stage rest ih =>
    rw [run, List.flatMap_nil, List.eraseDups_nil]
    exact ih

/-- A run may end as soon as a stage finds nothing: the rest of the stages find nothing either. -/
theorem run_append_of_eq_nil {s : Search} (h : s.run stages found = []) (rest : List Stage) :
    s.run (stages ++ rest) found = [] := by
  rw [run_append, h, run_nil]

theorem nodup_run (s : Search) (h : found.Nodup) : (s.run stages found).Nodup := by
  induction stages generalizing found with
  | nil =>
    rw [run]
    exact h
  | cons stage rest ih =>
    rw [run]
    exact ih (nodup_eraseDups _)

/-- A run from several nodes finds what the runs from each of them find, with later repetitions
dropped. -/
theorem run_eq_flatMap (s : Search) (stages : List Stage) (h : found.Nodup) :
    s.run stages found = (found.flatMap fun n => s.run stages [n]).eraseDups := by
  induction stages generalizing found with
  | nil =>
    simp only [run, List.flatMap_singleton']
    exact (eraseDups_of_nodup h).symm
  | cons stage rest ih =>
    have hrun : ∀ found : List NodeId, s.run (stage :: rest) found =
        (found.flatMap fun n => (stage.select s n).flatMap fun m => s.run rest [m]).eraseDups := by
      intro found
      rw [run, ih (nodup_eraseDups _), eraseDups_flatMap_eraseDups, List.flatMap_assoc]
    simp only [hrun, List.flatMap_singleton, eraseDups_flatMap_eraseDups_comp]

theorem find_eq_run (s : Search) (p : Pattern) {origin : NodeId} (ho : origin < s.graph.size) :
    s.find p origin = s.run p.stages [origin] := by
  obtain ⟨n, hn⟩ := Graph.lt_size_iff.1 ho
  rw [find, hn]
  rfl

theorem find_eq_nil (s : Search) (p : Pattern) {origin : NodeId} (ho : ¬ origin < s.graph.size) :
    s.find p origin = [] := by
  have hnone : s.graph.get? origin = none := by
    rw [← Option.not_isSome_iff_eq_none, Option.isSome_iff_exists]
    exact fun h => ho (Graph.lt_size_iff.2 h)
  rw [find, hnone]
  rfl

theorem lt_size_of_mem_reach {s : Search} (hg : s.graph.Linked) {relation : Relation}
    (h : n ∈ s.reach source relation) (hs : source < s.graph.size) : n < s.graph.size := by
  cases relation with
  | immediate => exact hg.neighbor_lt h
  | descendant =>
    exact hg.lt_size_of_reaches (s.strategy.reaches_of_mem_walk (List.mem_filter.1 h).1) hs
  | wildcard => exact hg.lt_size_of_reaches (s.strategy.reaches_of_mem_walk h) hs
  | current => exact List.mem_singleton.1 h ▸ hs

theorem lt_size_of_mem_run {s : Search} (hg : s.graph.Linked) (h : n ∈ s.run stages found)
    (hf : ∀ m ∈ found, m < s.graph.size) : n < s.graph.size := by
  induction stages generalizing found with
  | nil =>
    rw [run] at h
    exact hf n h
  | cons stage rest ih =>
    rw [run] at h
    refine ih h fun m hm => ?_
    obtain ⟨k, hk, hm⟩ := List.mem_flatMap.1 (List.mem_eraseDups.1 hm)
    obtain ⟨relation, filters⟩ := stage
    rw [Stage.select] at hm
    exact lt_size_of_mem_reach hg (List.mem_filter.1 hm).1 (hf k hk)

/-- The stages of two patterns in a row find what the second pattern finds from each node that the
first finds. -/
theorem run_append_eq_flatMap {s : Search} (hg : s.graph.Linked) (p q : Pattern)
    {origin : NodeId} (ho : origin < s.graph.size) :
    s.run (p.stages ++ q.stages) [origin] = ((s.find p origin).flatMap (s.find q)).eraseDups := by
  have hnodup : (s.run p.stages [origin]).Nodup := nodup_run s (List.nodup_singleton origin)
  rw [run_append, find_eq_run s p ho, run_eq_flatMap _ _ hnodup]
  congr 1
  refine List.flatMap_congr fun n hn => ?_
  have hn := lt_size_of_mem_run hg hn fun m hm => List.mem_singleton.1 hm ▸ ho
  rw [find_eq_run s q hn]

end Search

end GraphSelect
