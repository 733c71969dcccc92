import GraphSelect.Selector.Pattern

/-! # Finding nodes

A query runs the stages of a pattern one after the other. A stage expands every node found so far,
keeps the candidates that all its filters accept, and drops repetitions; what it keeps is where
the next stage starts. The filters that hold patterns run them in the same way. -/
namespace GraphSelect

/-- The candidates that a relation reaches from a node, in the order of exploration. -/
def Search.reach (s : Search) (source : NodeId) : Relation → List NodeId
  | .immediate => s.graph.neighbors source
  | .descendant => (s.strategy.walk s.graph s.limit source).order.filter (· ≠ source)
  | .wildcard => (s.strategy.walk s.graph s.limit source).order
  | .current => [source]

mutual

/-- Whether a filter accepts a node that was reached from `origin`. -/
def Filter.accepts (s : Search) (origin node : NodeId) : Filter → Bool
  | .any => true
  | .name pattern => (s.graph.name node).any pattern.isMatch
  | .hasAttribute key value =>
    (s.graph.get? node).any fun n => n.attributes.entries.any fun p =>
      key.isMatch p.1 && value.all (·.isMatch p.2)
  | .index place => s.graph.index node = some place
  | .adjacent => (s.graph.neighbors origin).contains node
  | .origin => node = origin
  | .function _ _ accepts => accepts ⟨s, origin⟩ node
  | .has ⟨_, stages⟩ => (s.graph.get? node).isSome && !(Search.run s stages [node]).isEmpty

def Filter.allAccept (s : Search) (origin node : NodeId) : List Filter → Bool
  | [] => true
  | f :: rest => f.accepts s origin node && Filter.allAccept s origin node rest

/-- What a stage keeps of the candidates reached from one node. -/
def Stage.select (s : Search) (source : NodeId) : Stage → List NodeId
  | ⟨relation, filters⟩ => (s.reach source relation).filter (Filter.allAccept s source · filters)

/-- Runs stages from a list of nodes. -/
def Search.run (s : Search) : List Stage → List NodeId → List NodeId
  | [], found => found
  | stage :: rest, found => Search.run s rest (found.flatMap (stage.select s)).eraseDups

end

namespace Search

def find (s : Search) (p : Pattern) (origin : NodeId) : List NodeId :=
  if (s.graph.get? origin).isSome then s.run p.stages [origin] else []

def findFirst? (s : Search) (p : Pattern) (origin : NodeId) : Option NodeId :=
  (s.find p origin).head?

end Search

def Stage.accepts (st : Stage) (c : Context) (node : NodeId) : Bool :=
  Filter.allAccept c.toSearch c.origin node st.filters

end GraphSelect
