import GraphSelect.Traversal.BreadthFirst

/-! # Order of dependencies

A link from one node to another says that the first depends on the second. The order takes, again
and again, the first of the given nodes that depends only on nodes already taken; it fails with
the nodes that are left when none of them can be taken. A dependency outside the given nodes is
never met. -/
namespace GraphSelect.DependencyOrder

/-- Whether everything that a node depends on has been taken. -/
def ready (g : Graph) (taken : List NodeId) (n : NodeId) : Bool :=
  (g.neighbors n).all taken.contains

/-- Orders `remaining` behind `taken`, or gives the nodes that cannot be ordered. -/
def arrange (g : Graph) (taken remaining : List NodeId) : Except (List NodeId) (List NodeId) :=
  match remaining with
  | [] => .ok []
  | first :: rest =>
    match _e : (first :: rest).find? (ready g taken) with
    | none => .error (first :: rest)
    | some n => (arrange g (n :: taken) ((first :: rest).erase n)).map (n :: ·)
termination_by remaining.length
decreasing_by
  rw [List.length_erase_of_mem (List.mem_of_find?_eq_some ‹_›)]
  simp

/-- Orders the distinct nodes of a list so that every node follows its neighbors. -/
def sort (g : Graph) (nodes : List NodeId) : Except Error (List NodeId) :=
  (arrange g [] (BreadthFirst.fresh [] nodes)).mapError .cycle

/-- Orders the nodes that can be reached from `origin`, at most `limit` of them. -/
def sortFrom (g : Graph) (limit : Option Nat) (origin : NodeId) : Except Error (List NodeId) := do
  let _ ← g.find origin
  let walk := BreadthFirst.walk g limit origin
  match limit with
  | some k => if walk.truncated then throw (.contract (.tooManyReachable k origin))
  | none => pure ()
  sort g walk.order

end GraphSelect.DependencyOrder
