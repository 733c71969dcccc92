import GraphSelect.Selector.Compile

/-! # Keeping compiled selectors

A cache compiles each text once and hands out the same pattern for it from then on, until it is
cleared. Patterns are numbered in the order in which they were made, so that two look-ups can be
told to give the same one. A text that does not compile is not kept. -/
namespace GraphSelect

/-- A pattern with the number that sets it apart from others of the same text. -/
structure SharedPattern where
  number : Nat
  pattern : Pattern

structure PatternCache where
  registry : Registry
  /-- The kept patterns by their texts. -/
  entries : List (String × SharedPattern) := []
  /-- The number of the next pattern. -/
  next : Nat := 0

namespace PatternCache

def ofRegistry (registry : Registry) : PatternCache := { registry }

def size (c : PatternCache) : Nat := c.entries.length

def isEmpty (c : PatternCache) : Bool := c.entries.isEmpty

def get (c : PatternCache) (text : String) : Except Error (SharedPattern × PatternCache) :=
  match c.entries.lookup text with
  | some shared => .ok (shared, c)
  | none =>
    match c.registry.compile text with
    | .error e => .error e
    | .ok pattern =>
      let shared := ⟨c.next, pattern⟩
      .ok (shared, { c with entries := (text, shared) :: c.entries, next := c.next + 1 })

def clear (c : PatternCache) : PatternCache := { c with entries := [] }

end PatternCache

end GraphSelect
