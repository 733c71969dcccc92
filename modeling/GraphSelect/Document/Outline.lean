import GraphSelect.Data
import GraphSelect.Decimal.Layout
import GraphSelect.Text.Natural

/-! # What a document says

A document outlines a graph in one of two ways: as nodes with names for links between them, or as
one tree of nodes within nodes. Data in neither of the two shapes is no document. The first shape is
tried before the second. -/
namespace GraphSelect

inductive Scalar
  | bool (b : Bool)
  | int (i : Int)
  | float (x : Float)
  | text (s : String)
  deriving Repr, Inhabited

namespace Scalar

/-- Integers that do not fit in 64 bits with a sign become doubles. -/
def ofData? : Data → Option Scalar
  | .bool b => some (bool b)
  | .int i =>
    if Text.isWord i then some (int i) else some (float (Decimal.floatOfInt i))
  | .float x => some (float x)
  | .text s => some (text s)
  | _ => none

/-- The text that a node keeps for the value. -/
def render : Scalar → String
  | bool b => if b then "true" else "false"
  | int i => toString i
  | float x => Decimal.attributeLayout.write x
  | text s => s

end Scalar

/-- A node of a general graph, with the links that leave it. -/
structure NodeOutline where
  id : String
  name : Option String := none
  attributes : List (String × Scalar) := []
  links : List String := []
  deriving Repr

structure GraphOutline where
  nodes : List NodeOutline
  origin : Option String := none
  deriving Repr

/-- A node of a tree, with the nodes below it. -/
inductive TreeOutline
  | node (name : String) (attributes : List (String × Scalar)) (children : List TreeOutline)
      (binary : Bool)
  deriving Repr, Inhabited

inductive Outline
  | graph (g : GraphOutline)
  | tree (t : TreeOutline)
  deriving Repr

namespace Outline

def text? : Option Data → Option String
  | some (.text s) => some s
  | _ => none

/-- A member that may be left out or null. -/
def optionalText? : Option Data → Option (Option String)
  | none | some .null => some none
  | some (.text s) => some (some s)
  | _ => none

def texts? : Option Data → Option (List String)
  | none => some []
  | some (.list items) => items.mapM fun d => text? (some d)
  | _ => none

def attributes? : Option Data → Option (List (String × Scalar))
  | none => some []
  | some (.record fields) => fields.mapM fun (name, d) => (Scalar.ofData? d).map (name, ·)
  | _ => none

def bool? : Option Data → Option Bool
  | none => some false
  | some (.bool b) => some b
  | _ => none

def node? (d : Data) : Option NodeOutline := do
  match ← d.members? ["id", "name", "attributes", "links"] with
  | [id, name, attributes, links] =>
    return ⟨← text? id, ← optionalText? name, ← attributes? attributes, ← texts? links⟩
  | _ => none

def graph? (d : Data) : Option GraphOutline := do
  match ← d.members? ["nodes", "origin"] with
  | [some (.list nodes), origin] => return ⟨← nodes.mapM node?, ← optionalText? origin⟩
  | _ => none

def tree? (d : Data) : Option TreeOutline :=
  match h : d.members? ["name", "attributes", "children", "binary"] with
  | some [name, attributes, none, binary] => do
    return .node (← text? name) (← attributes? attributes) [] (← bool? binary)
  | some [name, attributes, some (.list children), binary] => do
    let below ← children.attach.mapM fun ⟨c, hc⟩ =>
      have : sizeOf c < sizeOf d := by
        have := List.sizeOf_lt_of_mem hc
        have := Data.sizeOf_lt_of_mem_members? (d := .list children) h (by simp)
        simp only [Data.list.sizeOf_spec] at this
        omega
      tree? c
    return .node (← text? name) (← attributes? attributes) below (← bool? binary)
  | _ => none
termination_by sizeOf d

def ofData? (d : Data) : Option Outline := ((graph? d).map graph).or ((tree? d).map tree)

end Outline

end GraphSelect
