import GraphSelect.Error
import GraphSelect.Graph.Attributes

/-! # Graphs of named nodes

A graph owns its nodes in the order in which they were added, and a node's number is its position.
Plain nodes link freely to other plain or tree nodes. Tree nodes form ordered trees: the links of
a tree node are its children, and each child keeps its parent, its place among its siblings and
its distance from the root. A binary node is a tree node with at most two children. All look-ups
are total: an unknown number has no name, no links, no parent. -/
namespace GraphSelect

inductive Kind | plain | tree | binary
  deriving DecidableEq, Repr, Inhabited

namespace Kind

def isTree : Kind → Bool
  | plain => false
  | tree | binary => true

def maxChildren : Kind → Option Nat
  | binary => some 2
  | plain | tree => none

end Kind

structure Node where
  name : String
  kind : Kind
  attributes : Attributes := .empty
  /-- Links of a plain node in the order of linking, children of a tree node in their order. -/
  neighbors : List NodeId := []
  parent : Option NodeId := none
  /-- Place among the children of the parent. -/
  index : Option Nat := none
  /-- Distance from the root; zero for a plain node. -/
  level : Nat := 0
  deriving DecidableEq, Repr, Inhabited

/-- Distance from the root, for tree nodes only. -/
def Node.depth (n : Node) : Option Nat := if n.kind.isTree then some n.level else none

structure Graph where
  nodes : Array Node := #[]
  deriving DecidableEq, Repr, Inhabited

namespace Graph

def empty : Graph := {}

def size (g : Graph) : Nat := g.nodes.size

def ids (g : Graph) : List NodeId := List.range g.size

def get? (g : Graph) (id : NodeId) : Option Node := g.nodes[id]?

def find (g : Graph) (id : NodeId) : Except Error Node :=
  match g.get? id with
  | some n => .ok n
  | none => .error (.nodeNotFound id)

/-- Changes one node; an unknown number changes nothing. -/
def modify (g : Graph) (id : NodeId) (f : Node → Node) : Graph := ⟨g.nodes.modify id f⟩

/-- Appends a node; its number is the former size. -/
def push (g : Graph) (n : Node) : Graph := ⟨g.nodes.push n⟩

@[simp] theorem get?_empty (id : NodeId) : empty.get? id = none := by simp [empty, get?]

@[simp] theorem size_modify (g : Graph) (id : NodeId) (f : Node → Node) :
    (g.modify id f).size = g.size := by simp [modify, size]

@[simp] theorem get?_modify (g : Graph) (id other : NodeId) (f : Node → Node) :
    (g.modify id f).get? other = if id = other then (g.get? other).map f else g.get? other := by
  simp [modify, get?, Array.getElem?_modify]

@[simp] theorem size_push (g : Graph) (n : Node) : (g.push n).size = g.size + 1 := by
  simp [push, size]

@[simp] theorem get?_push (g : Graph) (n : Node) (id : NodeId) :
    (g.push n).get? id = if id = g.size then some n else g.get? id := by
  exact Array.getElem?_push

/-- Two graphs with the same nodes under the same numbers are equal. -/
@[ext] theorem ext_get? {g h : Graph} (e : ∀ id, g.get? id = h.get? id) : g = h := by
  cases g; cases h
  exact congrArg Graph.mk (Array.ext_getElem? e)

def name (g : Graph) (id : NodeId) : Option String := (g.get? id).map Node.name

def value (g : Graph) (id : NodeId) (key : String) : Option String :=
  (g.get? id).bind (·.attributes.get? key)

def neighbors (g : Graph) (id : NodeId) : List NodeId := (g.get? id).elim [] Node.neighbors

def parent (g : Graph) (id : NodeId) : Option NodeId := (g.get? id).bind Node.parent

def children (g : Graph) (id : NodeId) : List NodeId :=
  (g.get? id).elim [] fun n => if n.kind.isTree then n.neighbors else []

def index (g : Graph) (id : NodeId) : Option Nat := (g.get? id).bind Node.index

def depth (g : Graph) (id : NodeId) : Option Nat := (g.get? id).bind Node.depth

def isRoot (g : Graph) (id : NodeId) : Bool :=
  (g.get? id).any fun n => n.kind.isTree && n.parent.isNone

/-- Whether no link leaves the node. -/
def isLeaf (g : Graph) (id : NodeId) : Bool := (g.neighbors id).isEmpty

/-- The first ancestors of a node, at most `steps` of them, nearest first. -/
def climb (g : Graph) : (steps : Nat) → NodeId → List NodeId
  | 0, _ => []
  | steps + 1, id =>
    match g.parent id with
    | none => []
    | some p => p :: g.climb steps p

/-- The strict ancestors of a node, nearest first. No tree is higher than its graph has nodes. -/
def ancestors (g : Graph) (id : NodeId) : List NodeId := g.climb g.size id

/-- The root of the tree that holds a node, which is the node itself when it has no parent. -/
def rootOf (g : Graph) (id : NodeId) : NodeId := (g.ancestors id).getLast?.getD id

def previousSibling (g : Graph) (id : NodeId) : Option NodeId :=
  match g.parent id, g.index id with
  | some p, some (i + 1) => (g.children p)[i]?
  | _, _ => none

def nextSibling (g : Graph) (id : NodeId) : Option NodeId :=
  match g.parent id, g.index id with
  | some p, some i => (g.children p)[i + 1]?
  | _, _ => none

/-- The child of a binary node in one of its two places. -/
def binaryChild (g : Graph) (id : NodeId) (place : Nat) : Option NodeId :=
  (g.get? id).bind fun n => if n.kind = .binary then n.neighbors[place]? else none

def left (g : Graph) (id : NodeId) : Option NodeId := g.binaryChild id 0

def right (g : Graph) (id : NodeId) : Option NodeId := g.binaryChild id 1

/-- One step of a path: a slash, the name, and the place among the siblings where there is one. -/
def pathSegment (g : Graph) (id : NodeId) : String :=
  "/" ++ (g.name id).getD "?" ++
    match g.index id with
    | some i => "[" ++ toString i ++ "]"
    | none => ""

/-- The way from the root to a node, such as `/config[0]/server[1]`. -/
def path (g : Graph) (id : NodeId) : String :=
  String.join (((g.ancestors id).reverse ++ [id]).map g.pathSegment)

end Graph

end GraphSelect
