import GraphSelect.Binding.Table
import GraphSelect.Selector.Cache

/-! # Binding

A binder fills the fields of a table from the nodes that their selectors find, in the order of the
table, and stops at the first field that cannot be filled. It keeps the selectors that it has
compiled for later fields and later records. A field whose selector finds nothing is passed over,
as is one whose only node lacks the attribute. -/
namespace GraphSelect

structure Binder where
  patterns : PatternCache
  reader : ValueReader := ValueReader.json
  strategy : Strategy := .breadthFirst

namespace Binder

def ofRegistry (registry : Registry) : Binder := { patterns := .ofRegistry registry }

/-- Steps that may compile selectors, which are kept even if a later step fails. -/
abbrev Step := ExceptT BindError (StateM PatternCache)

def compile (selector : String) : Step Pattern := do
  match (← get).get selector with
  | .ok (shared, cache) => do
    set cache
    return shared.pattern
  | .error e => throw (.pattern e)

/-- What a node gives to a field, if it gives something; `nested` fills the records of other
tables. -/
def take (reader : ValueReader) (g : Graph) (nested : Nat → NodeId → Step Bound) (node : NodeId) :
    Source → Step (Option Bound)
  | .value name target =>
    match g.value node name with
    | none => return none
    | some raw =>
      match reader.readAs target raw with
      | .ok v => return some (.value v)
      | .error u => throw (.unreadable u)
  | .index => return (g.index node).map fun i => .value (.int i)
  | .element table => return some (← nested table node)

def fill (s : Search) (reader : ValueReader) (nested : Nat → NodeId → Step Bound) (root : NodeId)
    (f : Field) : Step (Option (String × Bound)) := do
  let pattern ← compile f.selector
  match f.collection, s.find pattern root with
  | _, [] => return none
  | true, found => do
    let taken ← found.mapM fun node => take reader s.graph nested node f.source
    return some (f.name, .list (taken.filterMap id))
  | false, [node] => return (← take reader s.graph nested node f.source).map (f.name, ·)
  | false, found => throw (.ambiguous f.name f.selector found.length)

/-- Fills a record in which records are nested up to `depth` deep. -/
def record (schema : Schema) (s : Search) (reader : ValueReader) :
    (depth : Nat) → (table : Nat) → (root : NodeId) → Step Bound
  | 0, _, _ => throw .endless
  | depth + 1, table, root => do
    let filled ← (schema.table table).mapM (fill s reader (record schema s reader depth) root)
    return .record (filled.filterMap id)

/-- The deepest nesting of records that can end: on the way to a record no table meets the same
node twice. -/
def maxDepth (schema : Schema) (g : Graph) : Nat := (schema.length + 1) * (g.size + 1) + 1

/-- Fills the first table of a schema from a root. The binder that comes back keeps what has been
compiled. -/
def bind (b : Binder) (schema : Schema) (g : Graph) (root : NodeId) :
    Except BindError Bound × Binder :=
  let s : Search := ⟨g, b.strategy, none⟩
  let (result, patterns) :=
    (record schema s b.reader (maxDepth schema g) 0 root).run.run b.patterns
  (result, { b with patterns })

end Binder

end GraphSelect
