import GraphSelect.Graph.Basic

/-! # Editing a graph

Every edit either gives the changed graph or says which rule it would break, and then nothing has
changed. Plain nodes are linked with `connect`; tree nodes are arranged with `insertChild`,
`addChild`, `removeChild` and `detach`, which renumber the siblings from the changed place on and
set the levels of the moved subtree. -/
namespace GraphSelect.Graph

/-- The largest number of nodes. Numbers of nodes take 32 bits, and the last one stays free. -/
def maxNodes : Nat := 4294967295

def nextId (count : Nat) : Except Error NodeId :=
  if count < maxNodes then .ok count else .error (.contract (.graphFull count))

/-- Adds a node without links and gives its number. -/
def add (g : Graph) (name : String) (kind : Kind) : Except Error (Graph × NodeId) := do
  let id ← nextId g.size
  return (g.push { name, kind }, id)

def setAttribute (g : Graph) (id : NodeId) (key value : String) : Except Error Graph := do
  let _ ← g.find id
  return g.modify id fun n => { n with attributes := n.attributes.insert key value }

def withAttribute (g : Graph) (id : NodeId) (key value : String) :
    Except Error (Graph × NodeId) := do
  return (← g.setAttribute id key value, id)

def removeAttribute (g : Graph) (id : NodeId) (key : String) :
    Except Error (Graph × Option String) := do
  let n ← g.find id
  return (g.modify id fun n => { n with attributes := n.attributes.erase key },
    n.attributes.get? key)

def connect (g : Graph) (source target : NodeId) : Except Error Graph := do
  let _ ← g.find target
  let n ← g.find source
  if n.kind.isTree then throw (.contract (.linkFromTree source))
  if n.neighbors.contains target then return g
  return g.modify source fun n => { n with neighbors := n.neighbors ++ [target] }

/-- The nodes of the subtrees under `pending`, each with its level; a node's children come one
level below it. At most `steps` nodes are listed. -/
def levelsFrom (g : Graph) : (steps : Nat) → (pending : List (NodeId × Nat)) → List (NodeId × Nat)
  | 0, _ => []
  | _, [] => []
  | steps + 1, (id, level) :: rest =>
    (id, level) :: g.levelsFrom steps ((g.neighbors id).map (·, level + 1) ++ rest)

/-- The nodes of a subtree with their levels, when its root is at `level`. A tree holds no more
nodes than its graph. -/
def subtreeLevels (g : Graph) (root : NodeId) (level : Nat) : List (NodeId × Nat) :=
  g.levelsFrom g.size [(root, level)]

def setSubtreeLevel (g : Graph) (root : NodeId) (level : Nat) : Graph :=
  (g.subtreeLevels root level).foldl (fun g p => g.modify p.1 fun n => { n with level := p.2 }) g

/-- Numbers `children` from `start` on. -/
def numberFrom (g : Graph) : (start : Nat) → (children : List NodeId) → Graph
  | _, [] => g
  | start, c :: rest => (g.modify c fun n => { n with index := some start }).numberFrom (start + 1) rest

/-- Numbers the children of `parent` afresh from a place on. -/
def reindex (g : Graph) (parent : NodeId) (start : Nat) : Graph :=
  g.numberFrom start ((g.neighbors parent).drop start)

/-- Changes the children of `parent` and moves one node, which is then in another place or in none:
the children are numbered afresh from `start` on, and the subtree of the moved node gets its
levels. -/
def rearrange (g : Graph) (parent : NodeId) (change : List NodeId → List NodeId) (start : Nat)
    (child : NodeId) (move : Node → Node) (level : Nat) : Graph :=
  let moved := (g.modify parent fun n => { n with neighbors := change n.neighbors }).modify child move
  (moved.reindex parent start).setSubtreeLevel child level

/-- Links a root of a tree under a node at a place among its children. -/
def attach (g : Graph) (parent : NodeId) (position : Nat) (child : NodeId) (level : Nat) : Graph :=
  g.rearrange parent (·.insertIdx position child) position child
    (fun n => { n with parent := some parent }) level

def release (g : Graph) (parent : NodeId) (position : Nat) (child : NodeId) : Graph :=
  g.rearrange parent (·.eraseIdx position) position child
    (fun n => { n with parent := none, index := none }) 0

/-- Puts a root of a tree among the children of another tree's node. -/
def insertChild (g : Graph) (parent : NodeId) (position : Nat) (child : NodeId) :
    Except Error Graph := do
  let p ← g.find parent
  let c ← g.find child
  if !p.kind.isTree || !c.kind.isTree then throw (.contract (.notTrees parent child))
  if parent = child then throw (.contract (.ownChild child))
  if let some other := c.parent then throw (.contract (.hasParent child other))
  if let some max := p.kind.maxChildren then
    if p.neighbors.length ≥ max then
      throw (.contract (.tooManyChildren parent p.neighbors.length max))
  if position > p.neighbors.length then
    throw (.contract (.positionOutOfRange position parent p.neighbors.length))
  if (g.ancestors parent).contains child then throw (.contract (.ancestor child parent))
  return g.attach parent position child (p.level + 1)

def addChild (g : Graph) (parent child : NodeId) : Except Error Graph := do
  let p ← g.find parent
  g.insertChild parent p.neighbors.length child

/-- Takes a child from its parent; the child becomes the root of a tree of its own. -/
def removeChild (g : Graph) (parent child : NodeId) : Except Error Graph := do
  let _ ← g.find parent
  let c ← g.find child
  if c.parent ≠ some parent then throw (.contract (.notAChild child parent))
  match c.index with
  | none => throw (.missingIndex child)
  | some position => return g.release parent position child

/-- Takes a node from its parent, if it has one. -/
def detach (g : Graph) (id : NodeId) : Except Error Graph := do
  match (← g.find id).parent with
  | some parent => g.removeChild parent id
  | none => return g

end GraphSelect.Graph
