import GraphSelect.Selector.Query

/-! # Filter functions

A registry maps the names of function clauses to makers of filters. A maker runs when a selector
is compiled, so that an unknown name or a bad argument is an error of the selector. -/
namespace GraphSelect

/-- Makes the predicate of a function from the arguments of a clause. -/
abbrev Maker := Args → Except Error Predicate

/-- Named makers, the latest first. -/
structure Registry where
  entries : List (String × Maker) := []

namespace Registry

def empty : Registry := {}

def find? (r : Registry) (name : String) : Option Maker := r.entries.lookup name

def contains (r : Registry) (name : String) : Bool := (r.find? name).isSome

/-- Registers a maker, in place of an earlier one of the same name. -/
def register (r : Registry) (name : String) (maker : Maker) : Registry :=
  ⟨(name, maker) :: r.entries.filter (·.1 ≠ name)⟩

/-- Registers a predicate that takes no arguments. -/
def registerPredicate (r : Registry) (name : String) (accepts : Predicate) : Registry :=
  r.register name fun args => do
    args.expectNone name
    return accepts

def names (r : Registry) : List String := (r.entries.map Prod.fst).mergeSort (· ≤ ·)

/-- The predicate of a function clause. -/
def resolve (r : Registry) (name : String) (args : Args) : Except Error Predicate :=
  match r.find? name with
  | some maker => maker args
  | none => .error (.unknownFunction name)

end Registry

end GraphSelect
