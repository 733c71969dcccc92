import GraphSelect.Binding.Reader
import GraphSelect.Error

/-! # Binding tables

A table lists the fields of a record: where each is found from the node that the record stands
for, and what is taken from the nodes that are found. Fields may hold records of other tables,
which are named by their numbers in a schema, so that tables may refer to each other. -/
namespace GraphSelect

/-- What a field takes from a node. -/
inductive Source
  /-- The value of one of its attributes. -/
  | value (name : String) (target : Target)
  /-- Its place among its siblings. -/
  | index
  /-- A record of another table with this node as its root. -/
  | element (table : Nat)
  deriving DecidableEq, Repr

structure Field where
  name : String
  selector : String
  source : Source
  /-- Whether the field takes all nodes that are found, and not just one. -/
  collection : Bool
  deriving DecidableEq, Repr

abbrev Table := List Field

/-- Numbered tables. -/
abbrev Schema := List Table

/-- The table of a number; an unknown table has no fields. -/
def Schema.table (s : Schema) (number : Nat) : Table := s[number]?.getD []

inductive Bound
  | value (v : Value)
  | list (items : List Bound)
  /-- The fields that were given a value, in the order in which they were. -/
  | record (fields : List (String × Bound))
  deriving Repr, Inhabited

inductive BindError
  | pattern (e : Error)
  /-- A field for one node whose selector finds several. -/
  | ambiguous (field selector : String) (count : Nat)
  | unreadable (u : Unreadable)
  /-- Records within records without an end. -/
  | endless
  deriving Repr

def BindError.message : BindError → String
  | pattern e => "Pattern error: " ++ e.message
  | ambiguous field selector count =>
    s!"Field '{field}' expects one match for '{selector}' but found {count}"
  | unreadable u => u.message
  | endless => "Records are nested without an end"

end GraphSelect
