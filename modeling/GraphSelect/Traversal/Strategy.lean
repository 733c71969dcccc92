import GraphSelect.Traversal.BreadthFirst
import GraphSelect.Traversal.DepthFirst

/-! # Order of exploration

A query explores what can be reached from a node in one of two orders. -/
namespace GraphSelect

inductive Strategy | breadthFirst | depthFirst
  deriving DecidableEq, Repr, Inhabited

def Strategy.walk : Strategy → Graph → (limit : Option Nat) → (origin : NodeId) → Walk
  | breadthFirst => BreadthFirst.walk
  | depthFirst => DepthFirst.walk

end GraphSelect
