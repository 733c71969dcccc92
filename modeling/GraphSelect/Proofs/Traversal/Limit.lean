import GraphSelect.Proofs.Traversal.Coverage
import Mathlib.Data.List.Infix

/-!
# Walks under a limit

A limit cuts a walk short and changes nothing before the cut: the nodes visited under a limit are
the first ones of the walk without a limit, in both orders of exploration. A walk says that it was
cut exactly when the other walk goes on, so a limit that it just keeps within leaves no mark. The
walk under a larger limit begins with the walk under a smaller one.
-/
namespace GraphSelect

/-- A limit is not larger than another; no limit is the largest. -/
def LimitLe : Option Nat → Option Nat → Prop
  | _, none => True
  | none, some _ => False
  | some k, some l => k ≤ l

instance : DecidableRel LimitLe
  | _, none => isTrue trivial
  | none, some _ => isFalse not_false
  | some k, some l => inferInstanceAs (Decidable (k ≤ l))

variable {g : Graph} {limit : Option Nat} {k : Nat}

theorem limitReached_none (count : Nat) : limitReached none count = false := rfl

theorem limitReached_some {count : Nat} : limitReached (some k) count ↔ k ≤ count := by
  simp [limitReached]

/-- `cut` is what a limit leaves of the walk `full`, and says whether that is less than all. -/
structure Walk.CutAt (k : Nat) (full cut : Walk) : Prop where
  order : cut.order = full.order.take k
  truncated : cut.truncated ↔ k < full.order.length

namespace Walk.CutAt

variable {full : Walk} {l : List NodeId} {n : NodeId} {edges : Nat}

theorem of_ended (h : l.length ≤ k) : CutAt k ⟨l, edges, false⟩ ⟨l, edges, false⟩ where
  order := (List.take_of_length_le h).symm
  truncated := ⟨nofun, fun hk => absurd h (Nat.not_le.2 hk)⟩

theorem of_stopped (hlength : l.length = k) (hnext : l ++ [n] <+: full.order) :
    CutAt k full ⟨l, edges, true⟩ where
  order := by
    have hl : l <+: full.order := (List.prefix_append l [n]).trans hnext
    rw [← hlength]
    exact List.prefix_iff_eq_take.1 hl
  truncated := by
    have hk := hnext.length_le
    rw [List.length_append, hlength] at hk
    exact iff_of_true rfl hk

end Walk.CutAt

namespace BreadthFirst

variable {done queue : List NodeId} {edges : Nat}

theorem prefix_visit : done.reverse <+: (visit g limit done queue edges).order := by
  induction done, queue, edges using visit.induct g limit with
  | case1 done edges =>
    rw [visit]
  | case2 done edges current rest hlimit =>
    rw [visit, if_pos hlimit]
  | case3 done edges current rest hlimit ih =>
    rw [visit, if_neg hlimit]
    rw [List.reverse_cons] at ih
    exact (List.prefix_append _ _).trans ih

/-- As long as the limit is not passed, it takes the rest of the visits away and nothing else. -/
theorem cutAt_visit (h : done.length ≤ k) :
    Walk.CutAt k (visit g none done queue edges) (visit g (some k) done queue edges) := by
  induction done, queue, edges using visit.induct g (some k) with
  | case1 done edges =>
    rw [visit, visit]
    exact .of_ended (by rwa [List.length_reverse])
  | case2 done edges current rest hlimit =>
    have hlength := Nat.le_antisymm h (limitReached_some.1 hlimit)
    rw [visit, visit, if_pos hlimit, limitReached_none, if_neg Bool.false_ne_true]
    refine .of_stopped (n := current) (by rwa [List.length_reverse]) ?_
    rw [← List.reverse_cons]
    exact prefix_visit
  | case3 done edges current rest hlimit ih =>
    rw [visit, visit, if_neg hlimit, limitReached_none, if_neg Bool.false_ne_true]
    exact ih (Nat.lt_of_not_le (mt limitReached_some.2 hlimit))

theorem cutAt_walk (g : Graph) (k : Nat) (origin : NodeId) :
    Walk.CutAt k (walk g none origin) (walk g (some k) origin) := cutAt_visit (Nat.zero_le k)

end BreadthFirst

namespace DepthFirst

variable {entered path : List NodeId} {edges : Nat}

theorem prefix_follow : entered.reverse <+: (follow g limit entered path edges).order := by
  induction entered, path, edges using follow.induct g limit with
  | case1 entered edges =>
    rw [follow]
  | case2 entered edges top below hnext ih =>
    rw [follow, hnext]
    exact ih
  | case3 entered edges top below next hnext hlimit =>
    rw [follow, hnext]
    simp only [if_pos hlimit]
    exact List.prefix_rfl
  | case4 entered edges top below next hnext more hlimit ih =>
    rw [follow, hnext]
    simp only [if_neg hlimit]
    rw [List.reverse_cons] at ih
    exact (List.prefix_append _ _).trans ih

/-- As long as the limit is not passed, it takes the rest of the visits away and nothing else. -/
theorem cutAt_follow (h : entered.length ≤ k) :
    Walk.CutAt k (follow g none entered path edges) (follow g (some k) entered path edges) := by
  induction entered, path, edges using follow.induct g (some k) with
  | case1 entered edges =>
    rw [follow, follow]
    exact .of_ended (by rwa [List.length_reverse])
  | case2 entered edges top below hnext ih =>
    rw [follow, follow, hnext]
    exact ih h
  | case3 entered edges top below next hnext hlimit =>
    have hlength := Nat.le_antisymm h (limitReached_some.1 hlimit)
    rw [follow, follow, hnext]
    simp only [if_pos hlimit, limitReached_none]
    refine .of_stopped (n := next) (by rwa [List.length_reverse]) ?_
    rw [← List.reverse_cons]
    exact prefix_follow
  | case4 entered edges top below next hnext more hlimit ih =>
    rw [follow, follow, hnext]
    simp only [if_neg hlimit, limitReached_none]
    exact ih (Nat.lt_of_not_le (mt limitReached_some.2 hlimit))

/-- A walk with the limit zero does not even enter its origin; all others follow the path. -/
theorem cutAt_walk (g : Graph) (k : Nat) (origin : NodeId) :
    Walk.CutAt k (walk g none origin) (walk g (some k) origin) := by
  unfold walk
  rw [limitReached_none, if_neg Bool.false_ne_true]
  split
  · next h =>
    obtain rfl := Nat.le_zero.1 (limitReached_some.1 h)
    have hnext : [origin].reverse <+: (follow g none [origin] [origin] 0).order := prefix_follow
    exact .of_stopped rfl hnext
  · next h =>
    exact cutAt_follow (Nat.lt_of_not_le (mt limitReached_some.2 h))

end DepthFirst

namespace Strategy

variable {larger : Option Nat}

theorem cutAt_walk (strategy : Strategy) (g : Graph) (k : Nat) (origin : NodeId) :
    Walk.CutAt k (strategy.walk g none origin) (strategy.walk g (some k) origin) := by
  cases strategy with
  | breadthFirst => exact BreadthFirst.cutAt_walk g k origin
  | depthFirst => exact DepthFirst.cutAt_walk g k origin

theorem order_walk_some (strategy : Strategy) (g : Graph) (k : Nat) (origin : NodeId) :
    (strategy.walk g (some k) origin).order = (strategy.walk g none origin).order.take k :=
  (strategy.cutAt_walk g k origin).order

/-- The walk under a larger limit goes on where the walk under a smaller one stops. -/
theorem prefix_walk (strategy : Strategy) (h : LimitLe limit larger) (g : Graph)
    (origin : NodeId) :
    (strategy.walk g limit origin).order <+: (strategy.walk g larger origin).order := by
  match limit, larger, h with
  | none, none, _ => exact List.prefix_rfl
  | some k, none, _ =>
    rw [order_walk_some]
    exact List.take_prefix _ _
  | some k, some l, h =>
    rw [order_walk_some, order_walk_some]
    exact List.take_prefix_take_left h

/-- Under a limit `k` a walk finds the accepted ones of the first `k` nodes that it visits without a
limit. It visits as many nodes as without a limit, but at most `k`, and says that it was cut exactly
when there are more. -/
theorem found_walk_some (strategy : Strategy) (g : Graph) (k : Nat) (origin : NodeId)
    (accept : NodeId → Bool) :
    (strategy.walk g (some k) origin).found accept =
        ((strategy.walk g none origin).order.take k).filter accept ∧
      (strategy.walk g (some k) origin).visited =
        min k (strategy.walk g none origin).order.length ∧
      ((strategy.walk g (some k) origin).truncated = true ↔
        k < (strategy.walk g none origin).order.length) := by
  have hcut := strategy.cutAt_walk g k origin
  refine ⟨?_, ?_, hcut.truncated⟩
  · rw [Walk.found, hcut.order]
  · rw [Walk.visited, hcut.order, List.length_take]

end Strategy

end GraphSelect
