import GraphSelect.Graph.NodeId
import GraphSelect.Text.Utf8

/-! # What can go wrong

One type holds the causes of failure of selectors, graphs and documents, so that a caller can tell
them apart without reading text; the wording is in `Error.message` alone. Errors of a selector's
text form a class of their own, `Error.isCompileError`. -/
namespace GraphSelect

/-- What is wrong with a selector at the place where reading stopped. -/
inductive SelectorFault
  | emptyBlock
  | missingSegment
  | unexpected (c : Char)
  | unexpectedEnd
  | missingAttributeName
  | openAttribute
  | openCall (name : String)
  | missingArgument
  | openBlock
  | openQuote
  deriving DecidableEq, Repr

def SelectorFault.message : SelectorFault → String
  | .emptyBlock => "empty block"
  | .missingSegment => "expected a segment after '/'"
  | .unexpected c => s!"unexpected character '{c}'"
  | .unexpectedEnd => "unexpected end of selector"
  | .missingAttributeName => "expected attribute name"
  | .openAttribute => "unterminated attribute clause"
  | .openCall name => s!"unterminated call to {name}()"
  | .missingArgument => "expected an argument"
  | .openBlock => "unterminated block"
  | .openQuote => "unterminated quoted string"

inductive ArgumentFault
  /-- None of the names under which the argument may be given is there. -/
  | missing (keys : List String)
  | notNatural (value : String)
  | unexpected (count : Nat)
  deriving DecidableEq, Repr

def ArgumentFault.message : ArgumentFault → String
  | .missing keys => "missing argument '" ++ String.intercalate "' or '" keys ++ "'"
  | .notNatural value => s!"'{value}' is not a non-negative integer"
  | .unexpected count => s!"takes no arguments, got {count}"

/-- The rules that an edit or a sort of a graph can break. -/
inductive ContractFault
  | graphFull (count : Nat)
  | linkFromTree (source : NodeId)
  | notTrees (parent child : NodeId)
  | ownChild (child : NodeId)
  | hasParent (child parent : NodeId)
  | tooManyChildren (parent : NodeId) (count max : Nat)
  | positionOutOfRange (position : Nat) (parent : NodeId) (count : Nat)
  | ancestor (child parent : NodeId)
  | notAChild (child parent : NodeId)
  | tooManyReachable (limit : Nat) (origin : NodeId)
  deriving DecidableEq, Repr

open NodeId (label) in
def ContractFault.message : ContractFault → String
  | .graphFull count => s!"graph is full at {count} nodes"
  | .linkFromTree source => s!"cannot link from tree node {label source}; use add_child"
  | .notTrees parent child => s!"{label parent} and {label child} must both be tree nodes"
  | .ownChild child => s!"{label child} cannot be its own child"
  | .hasParent child parent => s!"{label child} already has parent {label parent}"
  | .tooManyChildren parent count max =>
    s!"{label parent} already has {count} children (max {max})"
  | .positionOutOfRange position parent count =>
    s!"position {position} out of range for {label parent} ({count} children)"
  | .ancestor child parent => s!"{label child} is an ancestor of {label parent}"
  | .notAChild child parent => s!"{label child} is not a child of {label parent}"
  | .tooManyReachable limit origin => s!"more than {limit} nodes reachable from {label origin}"

/-- What is wrong with the contents of a document that is well formed as data. -/
inductive DocumentFault
  | noNodes
  | duplicateId (id : String)
  | unknownId (id : String)
  deriving DecidableEq, Repr

def DocumentFault.message : DocumentFault → String
  | .noNodes => "graph has no nodes"
  | .duplicateId id => s!"duplicate node id '{id}'"
  | .unknownId id => s!"unknown node id '{id}'"

inductive Error
  /-- The selector breaks the grammar at a byte position. -/
  | malformed (position : Nat) (fault : SelectorFault)
  | emptySelector
  | invalidIndex (text : String)
  | invalidRegex (pattern : String)
  | unknownFunction (name : String)
  | invalidArgument (function : String) (fault : ArgumentFault)
  | selectorTooLong (length max : Nat)
  | nestingTooDeep (depth max : Nat)
  /-- Nodes that no order of dependencies can hold. -/
  | cycle (remaining : List NodeId)
  | contract (fault : ContractFault)
  | nodeNotFound (id : NodeId)
  | document (fault : DocumentFault)
  /-- The text is no JSON document of a known shape. -/
  | badJson
  /-- The text is no TOML document of a known shape. -/
  | badToml
  /-- A child without a place among its siblings, which no sequence of edits leads to. -/
  | missingIndex (child : NodeId)
  deriving DecidableEq, Repr

namespace Error

def message : Error → String
  | malformed position fault => s!"Syntax error at position {position}: {fault.message}"
  | emptySelector => "Selector is empty"
  | invalidIndex text => s!"Invalid index: {text}"
  | invalidRegex pattern => s!"Invalid regular expression '{pattern}'"
  | unknownFunction name => s!"Unknown filter function: {name}"
  | invalidArgument function fault => s!"Invalid argument for {function}(): {fault.message}"
  | selectorTooLong length max => s!"Selector too long: {length} chars (max {max})"
  | nestingTooDeep depth max => s!"Block nesting too deep: {depth} (max {max})"
  | cycle remaining => s!"Cycle detected among {remaining.length} nodes"
  | contract fault => s!"Contract violation: {fault.message}"
  | nodeNotFound id => s!"Node not found: {NodeId.label id}"
  | document fault => s!"Document error: {fault.message}"
  | badJson => "Serialization error"
  | badToml => "TOML error"
  | missingIndex child => s!"Internal error: {NodeId.label child} has a parent but no index"

def isCompileError : Error → Bool
  | malformed .. | emptySelector | invalidIndex _ | invalidRegex _ | unknownFunction _
  | invalidArgument .. | selectorTooLong .. | nestingTooDeep .. => true
  | _ => false

end Error

end GraphSelect
