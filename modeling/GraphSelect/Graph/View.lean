import GraphSelect.Graph.Basic

/-! # Snapshot of a node

What is shown of a node that a query has found: where it stands and what it holds. -/
namespace GraphSelect

structure NodeView where
  id : NodeId
  name : String
  path : String
  index : Option Nat
  depth : Option Nat
  attributes : Attributes
  deriving DecidableEq, Repr

def Graph.view (g : Graph) (id : NodeId) : Except Error NodeView := do
  let n ← g.find id
  return ⟨id, n.name, g.path id, n.index, n.depth, n.attributes⟩

end GraphSelect
