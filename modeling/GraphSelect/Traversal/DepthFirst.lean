import GraphSelect.Traversal.Walk

/-! # Depth-first walks

The walk keeps the path from the origin to the node it stands on. At each moment it goes to the
first neighbor that it has not entered before, or else one step back. Looking for that neighbor
starts over at the first link each time the walk comes back to a node, and all links looked at
are counted. -/
namespace GraphSelect.DepthFirst

/-- Follows `path`, the node the walk stands on first. `entered` holds the nodes entered so far,
the last first. -/
def follow (g : Graph) (limit : Option Nat) (entered path : List NodeId) (edges : Nat) : Walk :=
  match path with
  | [] => ⟨entered.reverse, edges, false⟩
  | top :: below =>
    match e : (g.neighbors top).find? (!entered.contains ·) with
    | none => follow g limit entered below (edges + (g.neighbors top).length)
    | some next =>
      let edges := edges + (g.neighbors top).idxOf next + 1
      if limitReached limit entered.length then ⟨entered.reverse, edges, true⟩
      else follow g limit (next :: entered) (next :: top :: below) edges
termination_by (g.unmet entered, path.length)
decreasing_by
  · exact Prod.Lex.right _ (by simp)
  · refine Prod.Lex.left _ _ (Graph.unmet_lt (fun x hx => List.mem_cons_of_mem _ hx)
      (Graph.mem_targets_of_mem_neighbors (List.mem_of_find?_eq_some e)) ?_ List.mem_cons_self)
    simpa using List.find?_some e

def walk (g : Graph) (limit : Option Nat) (origin : NodeId) : Walk :=
  if limitReached limit 0 then ⟨[], 0, true⟩ else follow g limit [origin] [origin] 0

end GraphSelect.DepthFirst
