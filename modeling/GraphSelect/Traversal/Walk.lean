import GraphSelect.Graph.Basic

/-! # Walks along links

A walk visits nodes in some order, each at most once, and may be cut short by a limit on their
number. The nodes to report are picked from the visited ones afterwards, so the order of a walk
and the choice of its nodes do not depend on each other. -/
namespace GraphSelect

/-- The visited nodes in their order, the number of links looked at, and whether a limit stopped
the walk while a node was waiting to be visited. -/
structure Walk where
  order : List NodeId
  edges : Nat
  truncated : Bool
  deriving DecidableEq, Repr

namespace Walk

def visited (w : Walk) : Nat := w.order.length

/-- The visited nodes that a predicate accepts, in visiting order. -/
def found (w : Walk) (accept : NodeId → Bool) : List NodeId := w.order.filter accept

end Walk

/-- Whether `count` visited nodes use up a limit. -/
def limitReached (limit : Option Nat) (count : Nat) : Bool := limit.any (· ≤ count)

namespace Graph

/-- All numbers that occur as the target of a link. -/
def targets (g : Graph) : List NodeId := g.nodes.toList.flatMap Node.neighbors

theorem mem_targets_of_mem_neighbors {g : Graph} {id n : NodeId} (h : n ∈ g.neighbors id) :
    n ∈ g.targets := by
  unfold neighbors get? at h
  cases e : g.nodes[id]? with
  | none => simp [e] at h
  | some node =>
    simp only [e, Option.elim_some] at h
    have hm : node ∈ g.nodes.toList := Array.mem_toList_iff.2 (Array.mem_of_getElem? e)
    exact List.mem_flatMap.2 ⟨node, hm, h⟩

/-- The number of link targets that are not in a list. -/
def unmet (g : Graph) (met : List NodeId) : Nat := (g.targets.filter (!met.contains ·)).length

/-- Meeting a link target for the first time leaves fewer to be met. -/
theorem unmet_lt {g : Graph} {met met' : List NodeId} (hsub : ∀ x ∈ met, x ∈ met') {n : NodeId}
    (ht : n ∈ g.targets) (hn : n ∉ met) (hn' : n ∈ met') : g.unmet met' < g.unmet met := by
  have hfilter : g.targets.filter (!met'.contains ·) =
      (g.targets.filter (!met.contains ·)).filter (!met'.contains ·) := by
    rw [List.filter_filter]
    refine List.filter_congr fun x _ => ?_
    by_cases hx : x ∈ met
    · simp [hx, hsub x hx]
    · simp [hx]
  rw [unmet, unmet, hfilter, List.length_filter_lt_length_iff_exists]
  exact ⟨n, List.mem_filter.2 ⟨ht, by simpa using hn⟩, by simpa using hn'⟩

end Graph

end GraphSelect
