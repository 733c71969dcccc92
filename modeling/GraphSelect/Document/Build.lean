import GraphSelect.Document.Outline
import GraphSelect.Graph.Edit

/-! # From an outline to a graph

The nodes of a graph are added in the order of the document, with a table of their identifiers,
and are linked when all of them are there, so that links may lead forward. The nodes of a tree are
added from the root down, each before the nodes below it, which are then arranged under it one
after the other. -/
namespace GraphSelect

/-- A graph and the node that queries start from. -/
structure Document where
  graph : Graph
  origin : NodeId
  deriving DecidableEq, Repr

/-- Sets attributes of one node from left to right. -/
def Graph.setScalars (g : Graph) (id : NodeId) (attributes : List (String × Scalar)) :
    Except Error Graph :=
  attributes.foldlM (fun g p => g.setAttribute id p.1 p.2.render) g

/-- The identifiers of the nodes added so far, each with its node, the latest first. -/
abbrev IdTable := List (String × NodeId)

/-- The node that an identifier names. -/
def IdTable.resolve (table : IdTable) (id : String) : Except Error NodeId :=
  match table.lookup id with
  | some n => .ok n
  | none => .error (.document (.unknownId id))

namespace NodeOutline

/-- Gives a new node its attributes. Where the document sets none of this name, the identifier
becomes one. -/
def setAttributes (n : NodeOutline) (g : Graph) (id : NodeId) : Except Error Graph := do
  let g ← g.setScalars id n.attributes
  if n.attributes.any (·.1 = "id") then return g else g.setAttribute id "id" n.id

/-- Adds a node without its links and enters its identifier in the table, where it must be new. -/
def add (s : Graph × IdTable) (n : NodeOutline) : Except Error (Graph × IdTable) := do
  let (g, table) := s
  if (table.lookup n.id).isSome then throw (.document (.duplicateId n.id))
  let (g, id) ← g.add (n.name.getD n.id) .plain
  return (← n.setAttributes g id, (n.id, id) :: table)

/-- Links a node to the nodes that its links name. -/
def link (table : IdTable) (g : Graph) (n : NodeOutline) : Except Error Graph := do
  let source ← table.resolve n.id
  n.links.foldlM (fun g l => do g.connect source (← table.resolve l)) g

end NodeOutline

def GraphOutline.build (o : GraphOutline) : Except Error Document := do
  if o.nodes.isEmpty then throw (.document .noNodes)
  let (g, table) ← o.nodes.foldlM NodeOutline.add (.empty, [])
  let g ← o.nodes.foldlM (NodeOutline.link table) g
  match o.origin with
  | some id => return ⟨g, ← table.resolve id⟩
  | none => return ⟨g, 0⟩

namespace TreeOutline

mutual

/-- Adds a tree and gives its root. Below a binary node all nodes are binary. -/
def add (binary : Bool) (g : Graph) : TreeOutline → Except Error (Graph × NodeId)
  | .node name attributes children ownBinary => do
    let binary := binary || ownBinary
    let (g, root) ← g.add name (if binary then .binary else .tree)
    let g ← g.setScalars root attributes
    return (← addBelow binary root g children, root)

/-- Adds trees under a node. -/
def addBelow (binary : Bool) (parent : NodeId) (g : Graph) :
    List TreeOutline → Except Error Graph
  | [] => .ok g
  | t :: rest => do
    let (g, child) ← t.add binary g
    addBelow binary parent (← g.addChild parent child) rest

end

def build (t : TreeOutline) : Except Error Document := do
  let (g, origin) ← t.add false .empty
  return ⟨g, origin⟩

end TreeOutline

def Outline.build : Outline → Except Error Document
  | graph g => g.build
  | tree t => t.build

end GraphSelect
