/-! # Attributes of a node

A node maps attribute names to texts. The pairs are kept sorted by name, each name once, so that
listing them needs no further sorting; names compare by code point. -/
namespace GraphSelect

/-- Attribute names with their values, sorted by name. -/
structure Attributes where
  entries : List (String × String) := []
  deriving DecidableEq, Repr, Inhabited

namespace Attributes

def empty : Attributes := {}

def get? (a : Attributes) (key : String) : Option String := a.entries.lookup key

def contains (a : Attributes) (key : String) : Bool := (a.get? key).isSome

/-- Puts a pair where the order of names wants it, in place of a pair of the same name. -/
def insertSorted (key value : String) : List (String × String) → List (String × String)
  | [] => [(key, value)]
  | (k, v) :: rest =>
    if key = k then (key, value) :: rest
    else if key < k then (key, value) :: (k, v) :: rest
    else (k, v) :: insertSorted key value rest

def insert (a : Attributes) (key value : String) : Attributes := ⟨insertSorted key value a.entries⟩

def erase (a : Attributes) (key : String) : Attributes := ⟨a.entries.filter (·.1 ≠ key)⟩

/-- The attributes that result from setting the pairs of a list from left to right. -/
def ofList (pairs : List (String × String)) : Attributes :=
  pairs.foldl (fun a p => a.insert p.1 p.2) empty

@[simp] theorem get?_empty (key : String) : empty.get? key = none := rfl

private theorem lookup_cons_eq (k v other : String) (l : List (String × String)) :
    ((k, v) :: l).lookup other = if other = k then some v else l.lookup other := by
  by_cases h : other = k
  · simp [h]
  · simp [List.lookup_cons, h, beq_eq_false_iff_ne.2 h]

theorem lookup_insertSorted (key value other : String) (l : List (String × String)) :
    (insertSorted key value l).lookup other = if other = key then some value else l.lookup other := by
  induction l with
  | nil => exact lookup_cons_eq key value other []
  | cons p rest ih =>
    obtain ⟨k, v⟩ := p
    simp only [insertSorted]
    split
    · next h =>
      subst h
      by_cases h : other = key <;> simp [lookup_cons_eq, h]
    · next h₁ =>
      split
      · simp [lookup_cons_eq]
      · by_cases h : other = k
        · simp [h, Ne.symm h₁]
        · simp [lookup_cons_eq, h, ih]

/-- A set attribute reads back, and no other attribute changes. -/
@[simp] theorem get?_insert (a : Attributes) (key value other : String) :
    (a.insert key value).get? other = if other = key then some value else a.get? other :=
  lookup_insertSorted key value other a.entries

end Attributes

end GraphSelect
