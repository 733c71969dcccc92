import GraphSelect.Selector.Args
import GraphSelect.Traversal.Strategy

/-! # Compiled selectors

A selector is compiled to a list of stages. Each stage says how candidates are reached from the
nodes found so far and which filters they have to pass; a filter may itself hold a selector, which
must find something from the candidate. -/
namespace GraphSelect

/-- How the candidates of a stage are reached from a node. -/
inductive Relation
  /-- The neighbors of the node. -/
  | immediate
  /-- What can be reached from the node, but not the node. -/
  | descendant
  /-- The node and what can be reached from it. -/
  | wildcard
  /-- The node alone. -/
  | current
  deriving DecidableEq, Repr

def Relation.name : Relation → String
  | immediate => "immediate"
  | descendant => "descendant"
  | wildcard => "wildcard"
  | current => "current"

/-- A graph and the way in which it is explored. -/
structure Search where
  graph : Graph
  strategy : Strategy := .breadthFirst
  /-- The largest number of nodes that each walk visits. -/
  limit : Option Nat := none

/-- What a filter function sees beside the candidate: the search, and the node from which the
candidate was reached. -/
structure Context extends Search where
  origin : NodeId

/-- What a filter function decides with. -/
abbrev Predicate := Context → NodeId → Bool

mutual

inductive Filter
  | any
  /-- The name of the node matches. -/
  | name (pattern : Regex)
  /-- The node has an attribute whose name matches and, where a value is given, whose value
  matches too. -/
  | hasAttribute (name : Regex) (value : Option Regex)
  /-- The node stands at a place among its siblings. -/
  | index (place : Nat)
  /-- The node is a neighbor of the origin. -/
  | adjacent
  /-- The node is the origin. -/
  | origin
  | function (name : String) (args : Args) (accepts : Predicate)
  /-- The selector finds something from the node. -/
  | has (pattern : Pattern)

structure Stage where
  relation : Relation
  filters : List Filter

structure Pattern where
  source : String
  stages : List Stage

end

instance : Inhabited Stage := ⟨⟨.current, []⟩⟩

instance : Inhabited Pattern := ⟨⟨"", []⟩⟩

def Filter.ofName (pattern : String) : Except Error Filter := return .name (← Regex.anchored pattern)

def Filter.ofAttribute (name : String) (value : Option String) : Except Error Filter := do
  let n ← Regex.anchored name
  match value with
  | none => return .hasAttribute n none
  | some v => return .hasAttribute n (some (← Regex.anchored v))

def Filter.render : Filter → String
  | .any => "*"
  | .name pattern => "name ~ " ++ pattern.source
  | .hasAttribute key none => "[" ++ key.source ++ "]"
  | .hasAttribute key (some value) => "[" ++ key.source ++ " = " ++ value.source ++ "]"
  | .index place => "#" ++ toString place
  | .adjacent => "adjacent()"
  | .origin => "self()"
  | .function label args _ => label ++ "(" ++ args.render ++ ")"
  | .has pattern => "\x7b" ++ pattern.source ++ "\x7d"

def Stage.render (s : Stage) : String :=
  s.relation.name ++ ": " ++ String.intercalate " && " (s.filters.map Filter.render)

namespace Pattern

def size (p : Pattern) : Nat := p.stages.length

def isEmpty (p : Pattern) : Bool := p.stages.isEmpty

/-- How the first stage leaves the origin. -/
def firstRelation? (p : Pattern) : Option Relation := p.stages.head?.map Stage.relation

def renderFrom : (number : Nat) → List Stage → List String
  | _, [] => []
  | number, s :: rest => (toString number ++ ". " ++ s.render) :: renderFrom (number + 1) rest

/-- One numbered line for each stage. -/
def render (p : Pattern) : String := String.intercalate "\n" (renderFrom 1 p.stages)

end Pattern

end GraphSelect
