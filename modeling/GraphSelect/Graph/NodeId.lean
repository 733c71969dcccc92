/-! # Node numbers

A node is named by its position in the graph that holds it. Numbers that no node of a graph
carries are allowed wherever a number is asked for, and every operation says what it does
with them. -/
namespace GraphSelect

/-- The position of a node in its graph. -/
abbrev NodeId := Nat

def NodeId.label (id : NodeId) : String := "n" ++ toString id

end GraphSelect
