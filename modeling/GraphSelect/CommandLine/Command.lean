import GraphSelect.CommandLine.Arguments
import GraphSelect.Text.Natural

/-! # Commands

What a command line asks for. Each level of the command line takes a fixed number of words, and the
commands that read a document need the path of one. -/
namespace GraphSelect.CommandLine

inductive Command
  /-- List what a selector finds in a document, the first nodes only where there is a limit. -/
  | query (selector input : String) (depthFirst : Bool) (limit : Option Nat)
  /-- Show the stages of a selector. -/
  | explain (selector : String)
  /-- List the nodes of a document behind the nodes that they depend on. -/
  | sort (input : String)
  /-- List the filter functions. -/
  | functions
  | getSetting (name : String)
  | setSetting (name value : String)
  | listSettings
  /-- Show where the configuration file is. -/
  | configPath
  /-- Write a configuration file with the defaults. -/
  | initConfig (force : Bool)
  deriving DecidableEq, Repr

/-- A command with the format that is asked for. -/
structure Invocation where
  format : Option String
  command : Command
  deriving DecidableEq, Repr

namespace Arguments

/-- The path of the document, which must not be empty. -/
def input? (a : Arguments) : Option String := (a.value? .input).filter (· ≠ "")

/-- The limit on what is listed: none where none is given, a failure where it is no number. -/
def limit? (a : Arguments) : Option (Option Nat) :=
  match a.value? .limit with
  | none => some none
  | some value => (Text.readNatural value.toList).map some

def command? (a : Arguments) : Option Command :=
  match a.level, a.words with
  | .query, [selector] => do
    let input ← a.input?
    let limit ← a.limit?
    some (.query selector input (a.contains .depthFirst) limit)
  | .explain, [selector] => some (.explain selector)
  | .sort, [] => a.input?.map .sort
  | .functions, [] => some .functions
  | .getSetting, [name] => some (.getSetting name)
  | .setSetting, [name, value] => some (.setSetting name value)
  | .listSettings, [] => some .listSettings
  | .configPath, [] => some .configPath
  | .initConfig, [] => some (.initConfig (a.contains .force))
  | _, _ => none

end Arguments

/-- Reads a command line as an invocation; `none` stands for wrong usage. -/
def Invocation.ofArguments? (arguments : List String) : Option Invocation := do
  let a ← Arguments.ofList? arguments
  some ⟨a.value? .format, ← a.command?⟩

def Invocation.input? (i : Invocation) : Option String :=
  match i.command with
  | .query _ input _ _ | .sort input => some input
  | _ => none

end GraphSelect.CommandLine
