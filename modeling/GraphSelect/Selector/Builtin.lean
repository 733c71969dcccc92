import GraphSelect.Selector.Registry

/-! # The built-in filter functions

Functions on attributes, names and places, which every selector of the command line can call. -/
namespace GraphSelect.Builtin

/-- The value of an attribute of this name matches the argument. -/
def attributeMatches (key : String) : Maker := fun args => do
  let pattern ← args.requirePattern key ["0", key]
  return fun c node => (c.graph.value node key).any pattern.isMatch

def namespaceOf? (name : String) : Option String :=
  match name.toList.dropWhile (· ≠ ':') with
  | [] => none
  | _ => some (String.ofList (name.toList.takeWhile (· ≠ ':')))

/-- What stands before the first colon of the node's name matches the argument. -/
def namespaceMatches (function : String) : Maker := fun args => do
  let pattern ← args.requirePattern function ["0", "prefix"]
  return fun c node => ((c.graph.name node).bind namespaceOf?).any pattern.isMatch

/-- The node stands at this distance from the root. -/
def depthEquals : Maker := fun args => do
  let depth ← args.requireNatural "depth" ["0", "depth"]
  return fun c node => c.graph.depth node = some depth

/-- The name of some neighbor of the node matches the argument. -/
def hasChildNamed : Maker := fun args => do
  let pattern ← args.requirePattern "child" ["0", "name"]
  return fun c node => (c.graph.neighbors node).any fun n => (c.graph.name n).any pattern.isMatch

/-- The node is a neighbor of the node from which it was reached. -/
def isAdjacent : Predicate := fun c node => (c.graph.neighbors c.origin).contains node

def isOrigin : Predicate := fun c node => node = c.origin

def isLeaf : Predicate := fun c node => c.graph.isLeaf node

def isRoot : Predicate := fun c node => c.graph.isRoot node

def isFirst : Predicate := fun c node => c.graph.index node = some 0

def isLast : Predicate := fun c node =>
  match c.graph.parent node with
  | some parent => (c.graph.children parent).getLast? = some node
  | none => false

def registry : Registry :=
  Registry.empty
    |>.register "type" (attributeMatches "type")
    |>.register "value" (attributeMatches "value")
    |>.register "namespace" (namespaceMatches "namespace")
    |>.register "ns" (namespaceMatches "ns")
    |>.register "depth" depthEquals
    |>.register "child" hasChildNamed
    |>.registerPredicate "adjacent" isAdjacent
    |>.registerPredicate "self" isOrigin
    |>.registerPredicate "leaf" isLeaf
    |>.registerPredicate "root" isRoot
    |>.registerPredicate "first" isFirst
    |>.registerPredicate "last" isLast

end GraphSelect.Builtin
