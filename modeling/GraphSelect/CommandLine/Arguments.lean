import GraphSelect.CommandLine.Level

/-! # Reading arguments

An argument that starts with a hyphen sets options: two hyphens stand before a long name, one
before a cluster of letters, and a hyphen alone is a word. An option with a value takes it from the
same argument, behind an equals sign or directly behind its letter, or else from the next argument,
which must not look like an option. Two hyphens alone end the options, and from there on every
argument is a word. Reading fails as a whole where the arguments do not follow these rules. -/
namespace GraphSelect.CommandLine

structure Flags where
  given : List (OptionKey × String) := []
  pending : Option OptionKey := none
  deriving DecidableEq, Repr

/-- What a whole command line says: the level that its names lead to, the options in order with the
levels on which they stand, and the words. An option without a value has an empty one. -/
structure Arguments where
  level : Level
  options : List (Level × OptionKey × String) := []
  words : List String := []
  deriving DecidableEq, Repr

def isOptionLike (argument : String) : Bool :=
  match argument.toList with
  | '-' :: _ :: _ => true
  | _ => false

namespace Level

/-- Reads what stands behind two hyphens: a name, or a name and a value with an equals sign
between. -/
def longFlags? (level : Level) (body : List Char) : Option Flags := do
  let key ← level.ofLong? (String.ofList (body.takeWhile (· ≠ '=')))
  match key.shape, body.dropWhile (· ≠ '=') with
  | .valued, [] => some ⟨[], some key⟩
  | .valued, _ :: value => some ⟨[(key, String.ofList value)], none⟩
  | _, [] => some ⟨[(key, "")], none⟩
  | _, _ :: _ => none

def joinedValue : List Char → String
  | '=' :: value => String.ofList value
  | value => String.ofList value

/-- Reads the letters behind one hyphen. -/
def shortFlags? (level : Level) : List Char → Option Flags
  | [] => some {}
  | letter :: rest => do
    let key ← level.ofShort? letter
    match key.shape with
    | .valued =>
      if rest.isEmpty then some ⟨[], some key⟩ else some ⟨[(key, joinedValue rest)], none⟩
    | _ =>
      let flags ← level.shortFlags? rest
      some { flags with given := (key, "") :: flags.given }

def flags? (level : Level) (argument : String) : Option Flags :=
  match argument.toList with
  | '-' :: '-' :: body => level.longFlags? body
  | '-' :: letters => level.shortFlags? letters
  | _ => none

end Level

namespace Arguments

def addOptions (level : Level) (given : List (OptionKey × String)) (a : Arguments) : Arguments :=
  { a with options := given.map (level, ·) ++ a.options }

def addWord (word : String) (a : Arguments) : Arguments := { a with words := word :: a.words }

/-- Reads the arguments from some level on, where an option may still wait for its value. -/
def scan (level : Level) (pending : Option OptionKey) : List String → Option Arguments
  | [] => if pending.isSome then none else some { level }
  | argument :: rest =>
    match pending with
    | some key =>
      if isOptionLike argument then none
      else (scan level none rest).map (addOptions level [(key, argument)])
    | none =>
      if argument = "--" then some { level, words := rest }
      else if isOptionLike argument then do
        let flags ← level.flags? argument
        (scan level flags.pending rest).map (addOptions level flags.given)
      else
        match level.ofCommand? argument with
        | some next => scan next none rest
        | none => (scan level none rest).map (addWord argument)

/-- The options that must not be repeated on one level. -/
def limited (a : Arguments) : List (Level × OptionKey) :=
  (a.options.map fun o => (o.1, o.2.1)).filter (·.2.shape ≠ .counted)

def ofList? (arguments : List String) : Option Arguments := do
  let a ← scan .top none arguments
  guard a.limited.Nodup
  some a

def value? (a : Arguments) (key : OptionKey) : Option String :=
  (a.options.reverse.find? (·.2.1 = key)).map (·.2.2)

def contains (a : Arguments) (key : OptionKey) : Bool := a.options.any (·.2.1 = key)

end Arguments

end GraphSelect.CommandLine
