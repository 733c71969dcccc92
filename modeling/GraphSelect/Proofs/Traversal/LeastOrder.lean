import GraphSelect.Proofs.Traversal.Sortable
import Mathlib.Data.List.Lex

/-!
# The least order

Sorting takes, again and again, the first given node that depends only on nodes already taken. Among
all orders of the given nodes in which every node stands behind its neighbors this gives the least
one, where orders are compared node by node and a node is less than another one that is given later.
For any other such order starts with a node that could be taken at once: either it is the node that
sorting takes, and both orders go on with the same nodes, or sorting has found an earlier one.
-/
namespace GraphSelect

namespace BreadthFirst

/-- The new nodes of a list come in the order of their first places in it. -/
theorem pairwise_idxOf_fresh (known l : List NodeId) :
    (fresh known l).Pairwise fun m n => l.idxOf m < l.idxOf n := by
  induction l generalizing known with
  | nil => exact .nil
  | cons a l ih =>
    -- Nodes other than `a` keep their order when `a` is put in front.
    have hstep : ∀ {known' : List NodeId}, a ∈ known' →
        (fresh known' l).Pairwise fun m n => (a :: l).idxOf m < (a :: l).idxOf n := by
      intro known' ha
      refine (ih known').imp_of_mem fun {m n} hm hn hlt => ?_
      have hne : ∀ {k}, k ∈ fresh known' l → a ≠ k := by
        rintro k hk rfl
        exact (mem_fresh.1 hk).2 ha
      rw [List.idxOf_cons_ne l (hne hm), List.idxOf_cons_ne l (hne hn)]
      exact Nat.succ_lt_succ hlt
    rw [fresh]
    split
    · next ha => exact hstep (by simpa using ha)
    · refine List.pairwise_cons.2 ⟨fun n hn => ?_, hstep List.mem_cons_self⟩
      have hne : a ≠ n := by
        rintro rfl
        exact (mem_fresh.1 hn).2 List.mem_cons_self
      rw [List.idxOf_cons_self, List.idxOf_cons_ne l hne]
      exact Nat.succ_pos _

end BreadthFirst

namespace DependencyOrder

variable {g : Graph} {taken remaining order other nodes l : List NodeId} {m n : NodeId}

/-- An order of the distinct nodes of a list in which every node stands behind its neighbors. -/
structure Valid (g : Graph) (nodes order : List NodeId) : Prop where
  nodup : order.Nodup
  mem_iff : ∀ n, n ∈ order ↔ n ∈ nodes
  behind : ∀ before n after, order = before ++ n :: after → ∀ m ∈ g.neighbors n, m ∈ before

def GivenBefore (nodes : List NodeId) (m n : NodeId) : Prop := nodes.idxOf m < nodes.idxOf n

instance (nodes : List NodeId) : Std.Asymm (GivenBefore nodes) := ⟨fun _ _ => Nat.lt_asymm⟩

theorem Settled.of_append (h : Settled g (l ++ taken)) : Settled g taken := by
  induction l with
  | nil => exact h
  | cons a l ih => exact ih h.2

theorem settled_reverse_iff :
    Settled g order.reverse ↔
      ∀ before n after, order = before ++ n :: after → ∀ m ∈ g.neighbors n, m ∈ before := by
  induction order using List.reverseRecOn with
  | nil => simp [Settled]
  | append_singleton order a ih =>
    rw [List.reverse_append, List.reverse_singleton, List.singleton_append, Settled, ih]
    constructor
    · rintro ⟨ha, hbefore⟩ before n after h
      rcases List.eq_nil_or_concat after with rfl | ⟨after, last, rfl⟩
      · obtain ⟨rfl, hn⟩ := List.append_inj' h rfl
        obtain rfl : a = n := by simpa using hn
        simpa using ha
      · rw [List.concat_eq_append, ← List.cons_append, ← List.append_assoc] at h
        exact hbefore before n after (List.append_inj' h rfl).1
    · intro h
      refine ⟨by simpa using h order a [] rfl, fun before n after e => ?_⟩
      exact h before n (after ++ [a]) (by simp [e])

/-- An order is valid when it holds the distinct nodes and, read backwards, is settled. -/
theorem valid_iff_perm :
    Valid g nodes order ↔ order.Perm nodes.eraseDups ∧ Settled g order.reverse := by
  have hnodup : nodes.eraseDups.Nodup := BreadthFirst.fresh_nil nodes ▸ BreadthFirst.nodup_fresh _ _
  rw [settled_reverse_iff]
  constructor
  · intro h
    refine ⟨(List.perm_ext_iff_of_nodup h.nodup hnodup).2 fun n => ?_, h.behind⟩
    rw [h.mem_iff, List.mem_eraseDups]
  · rintro ⟨hperm, hbehind⟩
    exact ⟨hperm.nodup_iff.2 hnodup, fun n => by rw [hperm.mem_iff, List.mem_eraseDups], hbehind⟩

theorem Arranged.left_eq_nil {left : List NodeId} (h : Arranged g [] remaining order left)
    (hremaining : remaining.Nodup) (hperm : other.Perm remaining)
    (hother : Settled g other.reverse) : left = [] := by
  refine List.eq_nil_iff_forall_not_mem.2 fun n hn => ?_
  obtain ⟨m, hreach, hm⟩ := h.unsortable hn
  have hmem : ∀ {k}, k ∈ other.reverse ↔ k ∈ remaining := by
    intro k
    rw [List.mem_reverse, hperm.mem_iff]
  have hm' : m ∈ other.reverse :=
    hother.mem_of_reaches (hmem.2 (h.mem_iff.2 (.inr hn))) hreach
  rcases hm with hout | hcycle
  · exact hout (hmem.1 hm')
  · exact hother.not_onCycle (List.nodup_reverse.2 (hperm.nodup_iff.2 hremaining)) hm' hcycle

/-- The first element of a sorted list that meets a condition is the least one. -/
theorem find?_eq_or_rel {r : NodeId → NodeId → Prop} {p : NodeId → Bool} (hl : l.Pairwise r)
    (hfind : l.find? p = some n) (hm : m ∈ l) (hp : p m) : m = n ∨ r n m := by
  induction l with
  | nil => cases hm
  | cons a l ih =>
    obtain ⟨ha, hl⟩ := List.pairwise_cons.1 hl
    rw [List.find?_cons] at hfind
    split at hfind
    · obtain rfl := Option.some.inj hfind
      exact (List.mem_cons.1 hm).imp_right (ha m)
    · next hfalse =>
      refine ih hl hfind ((List.mem_cons.1 hm).resolve_left ?_)
      rintro rfl
      rw [hp] at hfalse
      cases hfalse

theorem arrange_cons_eq_ok_iff {first : NodeId} {rest : List NodeId} :
    arrange g taken (first :: rest) = .ok order ↔
      ∃ n more, (first :: rest).find? (ready g taken) = some n ∧
        arrange g (n :: taken) ((first :: rest).erase n) = .ok more ∧ order = n :: more := by
  rw [arrange_cons]
  cases hfind : (first :: rest).find? (ready g taken) with
  | none => simp
  | some n =>
    simp only [Option.some.injEq, exists_eq_left', exists_and_left]
    cases arrange g (n :: taken) ((first :: rest).erase n) with
    | error left => simp [Except.map]
    | ok more => simp [Except.map, eq_comm (b := order)]

/-- What a run finds comes before any other order of the remaining nodes. -/
theorem lex_of_arrange {r : NodeId → NodeId → Prop} (hremaining : remaining.Pairwise r)
    (h : arrange g taken remaining = .ok order) (hperm : other.Perm remaining)
    (hother : Settled g (other.reverse ++ taken)) : other = order ∨ List.Lex r order other := by
  induction order generalizing taken remaining other with
  | nil =>
    cases remaining with
    | nil => exact .inl hperm.eq_nil
    | cons first rest =>
      obtain ⟨_, _, -, -, he⟩ := arrange_cons_eq_ok_iff.1 h
      cases he
  | cons n order ih =>
    cases remaining with
    | nil =>
      rw [arrange] at h
      cases h
    | cons first rest =>
      obtain ⟨_, _, hfind, hmore, ⟨⟩⟩ := arrange_cons_eq_ok_iff.1 h
      cases other with
      | nil => cases hperm.symm.eq_nil
      | cons a other =>
        rw [List.reverse_cons, List.append_assoc, List.singleton_append] at hother
        have hready : ready g taken a := ready_iff.2 hother.of_append.1
        have hmem : a ∈ first :: rest := hperm.mem_iff.1 List.mem_cons_self
        rcases find?_eq_or_rel hremaining hfind hmem hready with rfl | hlt
        · have hperm' : other.Perm ((first :: rest).erase a) := by simpa using hperm.erase a
          exact (ih (hremaining.sublist List.erase_sublist) hmore hperm' hother).imp
            (congrArg (a :: ·)) .cons
        · exact .inr (.rel hlt)

/-- Sorting gives an order exactly when it is valid and the least of all valid orders. -/
theorem sort_eq_ok_iff_least (g : Graph) (nodes order : List NodeId) :
    sort g nodes = .ok order ↔ Valid g nodes order ∧
      ∀ other, Valid g nodes other → other = order ∨ List.Lex (GivenBefore nodes) order other := by
  have hnodup : nodes.eraseDups.Nodup := BreadthFirst.fresh_nil nodes ▸ BreadthFirst.nodup_fresh _ _
  have hsorted : nodes.eraseDups.Pairwise (GivenBefore nodes) :=
    BreadthFirst.fresh_nil nodes ▸ BreadthFirst.pairwise_idxOf_fresh [] nodes
  obtain ⟨found, left, harranged, hrun⟩ :
      ∃ found left, Arranged g [] nodes.eraseDups found left ∧ _ := exists_arranged trivial
  have hsort : sort g nodes = if left = [] then .ok found else .error (.cycle left) := by
    rw [sort, BreadthFirst.fresh_nil, hrun]
    split <;> rfl
  have hleast : left = [] → Valid g nodes found ∧ ∀ other, Valid g nodes other →
      other = found ∨ List.Lex (GivenBefore nodes) found other := by
    rintro rfl
    rw [if_pos rfl] at hrun
    refine ⟨valid_iff_perm.2 ⟨by simpa using harranged.perm, harranged.settled_reverse⟩, ?_⟩
    intro other hother
    obtain ⟨hperm, hsettled⟩ := valid_iff_perm.1 hother
    exact lex_of_arrange hsorted hrun hperm (by simpa using hsettled)
  constructor
  · intro h
    rw [hsort] at h
    split at h
    · next hnil =>
      cases h
      exact hleast hnil
    · cases h
  · rintro ⟨hvalid, hmin⟩
    obtain ⟨hperm, hsettled⟩ := valid_iff_perm.1 hvalid
    have hnil := harranged.left_eq_nil hnodup hperm hsettled
    obtain ⟨hfound, hfoundmin⟩ := hleast hnil
    rw [hsort, if_pos hnil]
    congr 1
    rcases hfoundmin order hvalid with rfl | hlt
    · rfl
    · rcases hmin found hfound with heq | hgt
      · exact heq
      · exact absurd hgt (Std.Asymm.asymm _ _ hlt)

end DependencyOrder

end GraphSelect
