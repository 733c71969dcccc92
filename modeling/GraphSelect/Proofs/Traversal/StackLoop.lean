import GraphSelect.Proofs.Graph.Links
import GraphSelect.Traversal.DepthFirst
import Mathlib.Data.Finset.Erase
import Mathlib.Data.Finset.Insert

/-!
# The depth-first walk as a loop over a stack

The walk can be run as a loop that keeps a stack and three sets: the nodes on the stack, the nodes
that have been explored, and the nodes that have been seen on top of the stack. A round looks at the
top and leaves it there unless it is done, so a node comes to the top several times; it is visited
the first time, and there the limit is tested. Between two rounds the explored nodes and those on
the stack make up the seen ones, except that a node that was pushed last has not been seen yet. So
the three sets act as one set of entered nodes, and the loop ends as the walk along a path does,
which keeps that set only.
-/
namespace GraphSelect.DepthFirst

structure Loop where
  /-- The top comes first. -/
  stack : List NodeId
  onStack : Finset NodeId
  explored : Finset NodeId := ∅
  seen : Finset NodeId := ∅
  found : List NodeId := []
  visited : Nat := 0
  edges : Nat := 0
  truncated : Bool := false

namespace Loop

def start (origin : NodeId) : Loop where
  stack := [origin]
  onStack := {origin}

def visit (accept : NodeId → Bool) (top : NodeId) (s : Loop) : Loop :=
  if top ∈ s.seen then s
  else { s with
    seen := insert top s.seen
    visited := s.visited + 1
    found := if accept top then s.found ++ [top] else s.found }

/-- A node on top is seen, but the limit does not allow it to be visited. -/
def stop (top : NodeId) (s : Loop) : Loop :=
  { s with seen := insert top s.seen, truncated := true }

/-- Looks through neighbors for one that is neither explored nor on the stack, and counts those it
has looked at. -/
def scan (s : Loop) : (neighbors : List NodeId) → (edges : Nat) → Option NodeId × Nat
  | [], edges => (none, edges)
  | n :: rest, edges =>
    if n ∉ s.explored ∧ n ∉ s.onStack then (some n, edges + 1) else s.scan rest (edges + 1)

def push (next : NodeId) (edges : Nat) (s : Loop) : Loop :=
  { s with stack := next :: s.stack, onStack := insert next s.onStack, edges }

def pop (top : NodeId) (edges : Nat) (s : Loop) : Loop :=
  { s with
    stack := s.stack.tail, explored := insert top s.explored, onStack := s.onStack.erase top, edges }

def advance (g : Graph) (top : NodeId) (s : Loop) : Loop :=
  match s.scan (g.neighbors top) s.edges with
  | (some next, edges) => s.push next edges
  | (none, edges) => s.pop top edges

/-- The loop runs from one state to another, where it ends: the stack is empty, or a node would be
visited beyond the limit. -/
inductive Runs (g : Graph) (limit : Option Nat) (accept : NodeId → Bool) : Loop → Loop → Prop
  | done {s : Loop} (h : s.stack = []) : Runs g limit accept s s
  | stopped {s : Loop} {top : NodeId} {below : List NodeId} (h : s.stack = top :: below)
      (hnew : top ∉ s.seen) (hlimit : limitReached limit s.visited) :
      Runs g limit accept s (s.stop top)
  | round {s t : Loop} {top : NodeId} {below : List NodeId} (h : s.stack = top :: below)
      (hroom : top ∉ s.seen → ¬ limitReached limit s.visited)
      (hrest : Runs g limit accept ((s.visit accept top).advance g top) t) :
      Runs g limit accept s t

variable {g : Graph} {limit : Option Nat} {accept : NodeId → Bool} {s t t' : Loop}
  {entered path below l : List NodeId} {top next n origin : NodeId}

theorem Runs.unique (ht : Runs g limit accept s t) (ht' : Runs g limit accept s t') : t' = t := by
  induction ht with
  | done h =>
    cases ht' with
    | done => rfl
    | stopped h' | round h' => cases h.symm.trans h'
  | stopped h hnew hlimit =>
    cases ht' with
    | done h' => cases h.symm.trans h'
    | stopped h' =>
      cases h.symm.trans h'
      rfl
    | round h' hroom =>
      cases h.symm.trans h'
      exact absurd hlimit (hroom hnew)
  | round h hroom _ ih =>
    cases ht' with
    | done h' => cases h.symm.trans h'
    | stopped h' hnew hlimit =>
      cases h.symm.trans h'
      exact absurd hlimit (hroom hnew)
    | round h' _ hrest =>
      cases h.symm.trans h'
      exact ih hrest

theorem stack_visit (accept : NodeId → Bool) (top : NodeId) (s : Loop) :
    (s.visit accept top).stack = s.stack := by
  rw [visit]
  split <;> rfl

theorem edges_visit (accept : NodeId → Bool) (top : NodeId) (s : Loop) :
    (s.visit accept top).edges = s.edges := by
  rw [visit]
  split <;> rfl

theorem mem_seen_visit (accept : NodeId → Bool) (top : NodeId) (s : Loop) :
    top ∈ (s.visit accept top).seen := by
  rw [visit]
  split
  · next h => exact h
  · exact Finset.mem_insert_self top s.seen

/-- Where the top may be visited, the loop goes on as if it had been. -/
theorem Runs.of_visit (h : s.stack = top :: below)
    (hroom : top ∉ s.seen → ¬ limitReached limit s.visited)
    (ht : Runs g limit accept (s.visit accept top) t) : Runs g limit accept s t := by
  have hseen := mem_seen_visit accept top s
  have hstack := (stack_visit accept top s).trans h
  cases ht with
  | done h' => cases hstack.symm.trans h'
  | stopped h' hnew =>
    cases hstack.symm.trans h'
    exact absurd hseen hnew
  | round h' _ hrest =>
    cases hstack.symm.trans h'
    rw [visit.eq_def accept top (s.visit accept top), if_pos hseen] at hrest
    exact .round h hroom hrest

/-- The loop stands where the walk along a path does: the nodes on the path are the ones on the
stack, the entered nodes are the ones seen, and those of them that are not on the path are
explored. -/
structure Follows (accept : NodeId → Bool) (entered path : List NodeId) (s : Loop) : Prop where
  stack : s.stack = path
  nodup : path.Nodup
  entered_of_mem : ∀ n ∈ path, n ∈ entered
  mem_onStack : ∀ n, n ∈ s.onStack ↔ n ∈ path
  mem_explored : ∀ n, n ∈ s.explored ↔ n ∈ entered ∧ n ∉ path
  mem_seen : ∀ n, n ∈ s.seen ↔ n ∈ entered
  found : s.found = entered.reverse.filter accept
  visited : s.visited = entered.length
  truncated : s.truncated = false

namespace Follows

variable (hs : Follows accept entered path s)

include hs

/-- The explored nodes and those on the stack act as one set of visited nodes. -/
theorem mem_entered_iff (n : NodeId) : n ∈ entered ↔ n ∈ s.explored ∨ n ∈ s.onStack := by
  rw [hs.mem_explored, hs.mem_onStack]
  by_cases hn : n ∈ path
  · simp [hn, hs.entered_of_mem n hn]
  · simp [hn]

theorem scan_of_find?_eq_none (h : l.find? (!entered.contains ·) = none) (edges : Nat) :
    s.scan l edges = (none, edges + l.length) := by
  induction l generalizing edges with
  | nil => rfl
  | cons n rest ih =>
    rw [List.find?_eq_none, List.forall_mem_cons] at h
    have hn : n ∈ entered := by simpa using h.1
    have hold : ¬ (n ∉ s.explored ∧ n ∉ s.onStack) := by
      rw [← not_or, not_not]
      exact (hs.mem_entered_iff n).1 hn
    rw [scan, if_neg hold, ih (List.find?_eq_none.2 h.2), List.length_cons, Nat.add_right_comm,
      Nat.add_assoc]

theorem scan_of_find?_eq_some (h : l.find? (!entered.contains ·) = some next) (edges : Nat) :
    s.scan l edges = (some next, edges + l.idxOf next + 1) := by
  induction l generalizing edges with
  | nil => cases h
  | cons n rest ih =>
    by_cases hn : n ∈ entered
    · rw [List.find?_cons_of_neg (by simpa using hn)] at h
      have hnext : next ∉ entered := by simpa using List.find?_some h
      have hne : n ≠ next := fun e => hnext (e ▸ hn)
      have hold : ¬ (n ∉ s.explored ∧ n ∉ s.onStack) := by
        rw [← not_or, not_not]
        exact (hs.mem_entered_iff n).1 hn
      rw [scan, if_neg hold, ih h, List.idxOf_cons_ne _ hne, Nat.add_right_comm edges]
      rfl
    · rw [List.find?_cons_of_pos (by simpa using hn)] at h
      obtain rfl := Option.some.inj h
      have hnew : n ∉ s.explored ∧ n ∉ s.onStack := by
        rw [← not_or]
        exact mt (hs.mem_entered_iff n).2 hn
      rw [scan, if_pos hnew, List.idxOf_cons_self, Nat.add_zero]

theorem advance_of_find?_eq_none (h : (g.neighbors top).find? (!entered.contains ·) = none) :
    s.advance g top = s.pop top (s.edges + (g.neighbors top).length) := by
  rw [advance, hs.scan_of_find?_eq_none h]

theorem advance_of_find?_eq_some (h : (g.neighbors top).find? (!entered.contains ·) = some next) :
    s.advance g top = s.push next (s.edges + (g.neighbors top).idxOf next + 1) := by
  rw [advance, hs.scan_of_find?_eq_some h]

/-- A node that has been entered is not visited again. -/
theorem visit_eq (h : top ∈ path) : s.visit accept top = s := by
  rw [visit, if_pos ((hs.mem_seen top).2 (hs.entered_of_mem top h))]

/-- So the loop takes its next step with no look at the limit. -/
theorem runs_of_advance (h : path = top :: below) (ht : Runs g limit accept (s.advance g top) t) :
    Runs g limit accept s t := by
  have htop : top ∈ path := h ▸ List.mem_cons_self
  refine .round (hs.stack.trans h) (absurd ((hs.mem_seen top).2 (hs.entered_of_mem top htop))) ?_
  rwa [hs.visit_eq htop]

end Follows

theorem Follows.pop (hs : Follows accept entered (top :: below) s) (edges : Nat) :
    Follows accept entered below (s.pop top edges) := by
  obtain ⟨htop, hbelow⟩ := List.nodup_cons.1 hs.nodup
  exact {
    stack := by rw [Loop.pop, hs.stack, List.tail_cons]
    nodup := hbelow
    entered_of_mem := fun n hn => hs.entered_of_mem n (List.mem_cons_of_mem top hn)
    mem_onStack := fun n => by
      rw [Loop.pop, Finset.mem_erase, hs.mem_onStack, List.mem_cons]
      constructor
      · rintro ⟨hne, rfl | hn⟩
        · exact absurd rfl hne
        · exact hn
      · exact fun hn => ⟨fun e => htop (e ▸ hn), .inr hn⟩
    mem_explored := fun n => by
      rw [Loop.pop, Finset.mem_insert, hs.mem_explored, List.mem_cons, not_or]
      constructor
      · rintro (rfl | ⟨hn, -, hbelow⟩)
        · exact ⟨hs.entered_of_mem n List.mem_cons_self, htop⟩
        · exact ⟨hn, hbelow⟩
      · rintro ⟨hn, hbelow⟩
        by_cases e : n = top
        · exact .inl e
        · exact .inr ⟨hn, e, hbelow⟩
    mem_seen := hs.mem_seen
    found := hs.found
    visited := hs.visited
    truncated := hs.truncated }

theorem Follows.visit_push (hs : Follows accept entered path s) (hnew : next ∉ entered)
    (edges : Nat) :
    Follows accept (next :: entered) (next :: path) ((s.push next edges).visit accept next) := by
  have hseen : next ∉ (s.push next edges).seen := mt (hs.mem_seen next).1 hnew
  rw [visit, if_neg hseen]
  exact {
    stack := congrArg (next :: ·) hs.stack
    nodup := List.nodup_cons.2 ⟨mt (hs.entered_of_mem next) hnew, hs.nodup⟩
    entered_of_mem := fun n hn => by
      rcases List.mem_cons.1 hn with rfl | hn
      · exact List.mem_cons_self
      · exact List.mem_cons_of_mem next (hs.entered_of_mem n hn)
    mem_onStack := fun n => by
      rw [Loop.push, Finset.mem_insert, hs.mem_onStack, List.mem_cons]
    mem_explored := fun n => by
      rw [Loop.push, hs.mem_explored, List.mem_cons, List.mem_cons, not_or]
      constructor
      · rintro ⟨hn, hnot⟩
        exact ⟨.inr hn, fun e => hnew (e ▸ hn), hnot⟩
      · rintro ⟨hn, hne, hnot⟩
        exact ⟨hn.resolve_left hne, hnot⟩
    mem_seen := fun n => by
      rw [Finset.mem_insert, Loop.push, hs.mem_seen, List.mem_cons]
    found := by
      rw [List.reverse_cons, List.filter_append, ← hs.found]
      cases hacc : accept next <;> simp [Loop.push, hacc]
    visited := by
      rw [List.length_cons, ← hs.visited]
      rfl
    truncated := hs.truncated }

structure Reports (accept : NodeId → Bool) (t : Loop) (w : Walk) : Prop where
  found : t.found = w.found accept
  visited : t.visited = w.visited
  edges : t.edges = w.edges
  truncated : t.truncated = w.truncated

/-- From where the loop stands with the walk along a path, it ends like this walk. -/
theorem exists_runs_of_follows (entered path : List NodeId) (edges : Nat) :
    ∀ {s : Loop}, Follows accept entered path s → s.edges = edges →
      ∃ t, Runs g limit accept s t ∧ Reports accept t (follow g limit entered path edges) := by
  induction entered, path, edges using follow.induct g limit with
  | case1 entered edges =>
    intro s hs hedges
    refine ⟨s, .done hs.stack, ?_⟩
    rw [follow]
    exact ⟨hs.found, hs.visited.trans List.length_reverse.symm, hedges, hs.truncated⟩
  | case2 entered edges top below hnext ih =>
    intro s hs hedges
    obtain ⟨t, hruns, hreports⟩ := ih (hs.pop _) rfl
    refine ⟨t, hs.runs_of_advance rfl ?_, ?_⟩
    · rwa [hs.advance_of_find?_eq_none hnext, hedges]
    · rwa [follow, hnext]
  | case3 entered edges top below next hnext hlimit =>
    intro s hs hedges
    have hnew : next ∉ s.seen := mt (hs.mem_seen next).1 (by simpa using List.find?_some hnext)
    refine ⟨(s.push next (edges + (g.neighbors top).idxOf next + 1)).stop next,
      hs.runs_of_advance rfl ?_, ?_⟩
    · rw [hs.advance_of_find?_eq_some hnext, hedges]
      exact .stopped rfl hnew (hs.visited.symm ▸ hlimit)
    · rw [follow, hnext]
      simp only [if_pos hlimit]
      exact ⟨hs.found, hs.visited.trans List.length_reverse.symm, rfl, rfl⟩
  | case4 entered edges top below next hnext more hlimit =>
    rename_i ih
    intro s hs hedges
    have hnew : next ∉ entered := by simpa using List.find?_some hnext
    have hmore : ((s.push next more).visit accept next).edges = more := edges_visit _ _ _
    obtain ⟨t, hruns, hreports⟩ := ih (hs.visit_push hnew more) hmore
    refine ⟨t, hs.runs_of_advance rfl ?_, ?_⟩
    · rw [hs.advance_of_find?_eq_some hnext, hedges]
      exact .of_visit rfl (fun _ => hs.visited.symm ▸ hlimit) hruns
    · rw [follow, hnext]
      simp only [if_neg hlimit]
      exact hreports

theorem follows_start (accept : NodeId → Bool) (origin : NodeId) :
    Follows accept [origin] [origin] ((start origin).visit accept origin) where
  stack := rfl
  nodup := List.nodup_singleton origin
  entered_of_mem _ hn := hn
  mem_onStack n := by simp [start, visit]
  mem_explored n := by simp [start, visit]
  mem_seen n := by simp [start, visit]
  found := by
    cases hacc : accept origin <;> simp [start, visit, hacc]
  visited := rfl
  truncated := rfl

/-- Within every limit the loop comes to its end, and reports what the walk does. -/
theorem exists_runs (g : Graph) (limit : Option Nat) (accept : NodeId → Bool) (origin : NodeId) :
    ∃ t, Runs g limit accept (start origin) t ∧ Reports accept t (walk g limit origin) := by
  have hnew : origin ∉ (start origin).seen := Finset.notMem_empty origin
  by_cases hlimit : limitReached limit 0
  · refine ⟨_, .stopped rfl hnew hlimit, ?_⟩
    rw [walk, if_pos hlimit]
    exact ⟨rfl, rfl, rfl, rfl⟩
  · obtain ⟨t, hruns, hreports⟩ := exists_runs_of_follows [origin] [origin] 0
      (follows_start accept origin) rfl
    refine ⟨t, .of_visit rfl (fun _ => hlimit) hruns, ?_⟩
    rw [walk, if_neg hlimit]
    exact hreports

end Loop

end GraphSelect.DepthFirst
