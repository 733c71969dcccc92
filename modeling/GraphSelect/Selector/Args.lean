import GraphSelect.Regex.Basic
import GraphSelect.Text.Blank
import GraphSelect.Text.Natural

/-! # Arguments of filter functions

A function clause such as `ns(prefix=xs)` passes a list of arguments. Those without a name are
stored under their place, counted from zero, so that a function can ask for an argument by place
or by name. Quoted values are patterns, bare ones stand for themselves. -/
namespace GraphSelect

structure Arg where
  key : String
  value : String
  quoted : Bool
  deriving DecidableEq, Repr, Inhabited

/-- The arguments in the order in which they were given. -/
structure Args where
  items : List Arg := []
  deriving DecidableEq, Repr, Inhabited

namespace Args

def empty : Args := {}

def size (a : Args) : Nat := a.items.length

def isEmpty (a : Args) : Bool := a.items.isEmpty

def pushNamed (a : Args) (key value : String) (quoted : Bool) : Args :=
  ⟨a.items ++ [⟨key, value, quoted⟩]⟩

/-- Adds an argument under its place in the list. -/
def pushPositional (a : Args) (value : String) (quoted : Bool) : Args :=
  a.pushNamed (toString a.size) value quoted

def find? (a : Args) (key : String) : Option Arg := a.items.find? (·.key = key)

def get? (a : Args) (key : String) : Option String := (a.find? key).map Arg.value

/-- The argument under the first of several names that is there. -/
def firstOf? (a : Args) (keys : List String) : Option Arg := keys.findSome? a.find?

def require (a : Args) (function : String) (keys : List String) : Except Error Arg :=
  match a.firstOf? keys with
  | some arg => .ok arg
  | none => .error (.invalidArgument function (.missing keys))

def requirePattern (a : Args) (function : String) (keys : List String) : Except Error Regex := do
  let arg ← a.require function keys
  if arg.quoted then Regex.anchored arg.value else Regex.literal arg.value

def requireNatural (a : Args) (function : String) (keys : List String) : Except Error Nat := do
  let arg ← a.require function keys
  match Text.readNatural (Text.trim arg.value.toList) with
  | some n => return n
  | none => throw (.invalidArgument function (.notNatural arg.value))

/-- Accepts only an empty list, for functions without arguments. -/
def expectNone (a : Args) (function : String) : Except Error Unit :=
  if a.isEmpty then .ok () else .error (.invalidArgument function (.unexpected a.size))

/-- An argument as it could be written at a place; the name is left out if it is the place. -/
def Arg.render (place : Nat) (arg : Arg) : String :=
  (if arg.key = toString place then "" else arg.key ++ "=") ++
    if arg.quoted then "'" ++ arg.value ++ "'" else arg.value

def renderFrom : (place : Nat) → List Arg → List String
  | _, [] => []
  | place, arg :: rest => Arg.render place arg :: renderFrom (place + 1) rest

def render (a : Args) : String := String.intercalate ", " (renderFrom 0 a.items)

end Args

end GraphSelect
