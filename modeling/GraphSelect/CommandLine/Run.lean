import GraphSelect.CommandLine.Command
import GraphSelect.CommandLine.Config
import GraphSelect.CommandLine.Listing
import GraphSelect.Document.Basic
import GraphSelect.Selector.Builtin
import GraphSelect.Selector.Compile
import GraphSelect.Selector.Query
import GraphSelect.Traversal.DependencyOrder

/-! # Running commands

A command sees the configuration file and the document that it names, each of which may be missing,
and answers with a text to show and sometimes with a new text for the configuration file. Nothing
here reads or writes: what a command does is a function of what it sees. -/
namespace GraphSelect.CommandLine

/-- What a command sees. -/
structure Surroundings where
  configPath : String
  /-- The text of the configuration file. -/
  config : Option String
  /-- The text of the document that the command names. -/
  document : Option String
  deriving DecidableEq, Repr

structure Success where
  shown : String
  /-- The new text of the configuration file, where it is written. -/
  config : Option String := none
  deriving DecidableEq, Repr

inductive Failure
  | unknownFormat (path : String)
  | unreadable (path : String)
  /-- The text of the file is no document. -/
  | notLoaded (path : String)
  /-- Nodes, given by their paths, depend on each other or on such nodes. -/
  | cycle (paths : List String)
  | graph (e : Error)
  | config (f : ConfigFault)
  deriving DecidableEq, Repr

def Failure.message : Failure → String
  | unknownFormat path => s!"Cannot tell the format of {path}: expected a .json or .toml file"
  | unreadable path => s!"Failed to read {path}"
  | notLoaded path => s!"Failed to load {path}"
  | cycle paths => s!"Cycle detected among {paths.length} nodes"
  | graph e => e.message
  | config f => f.message

/-- What is reported of a failure: its message, and before it the paths of a cycle. -/
def Failure.report (f : Failure) : String :=
  let lines := match f with
    | cycle paths => "Nodes on or behind a cycle:\n" ++
        String.join (paths.map fun path => "  " ++ path ++ "\n")
    | _ => ""
  lines ++ "Error: " ++ f.message ++ "\n"

/-- Loads the document that a command names. -/
def Surroundings.load (s : Surroundings) (path : String) : Except Failure Document := do
  let some format := Format.ofPath? path | throw (.unknownFormat path)
  let some text := s.document | throw (.unreadable path)
  match Document.parse format text with
  | .ok d => return d
  | .error _ => throw (.notLoaded path)

def views (g : Graph) (nodes : List NodeId) : Except Failure (List NodeView) :=
  (nodes.mapM g.view).mapError .graph

def sorted (d : Document) (limit : Nat) : Except Failure (List NodeId) :=
  (DependencyOrder.sortFrom d.graph (some limit) d.origin).mapError fun
    | .cycle remaining => .cycle (remaining.map d.graph.path)
    | e => .graph e

def compiled (selector : String) : Except Failure Pattern :=
  (Builtin.registry.compile selector).mapError .graph

def settingLines (path : String) (c : Config) : String :=
  "# " ++ path ++ "\n" ++ String.join (Setting.all.map fun s => s.name ++ " = " ++ c.get s ++ "\n")

/-- Runs a command that changes nothing or only the configuration file. -/
def Command.run (s : Surroundings) (format : OutputFormat) (c : Config) :
    Command → Except Failure Success
  | query selector input depthFirst limit => do
    let d ← s.load input
    let pattern ← compiled selector
    let strategy := if depthFirst then .depthFirst else c.strategy
    let found := ({ graph := d.graph, strategy, limit := some c.nodeLimit : Search }).find
      pattern d.origin
    let nodes ← views d.graph (limit.elim found (found.take ·))
    if nodes.isEmpty && format = .table then return ⟨s!"No matches for '{selector}'\n", none⟩
    else return ⟨showNodes nodes format, none⟩
  | explain selector => do return ⟨showPattern (← compiled selector) format, none⟩
  | sort input => do
    let d ← s.load input
    let order ← sorted d c.nodeLimit
    return ⟨showNodes (← views d.graph order) format, none⟩
  | functions => return ⟨showFunctions Builtin.registry.names format, none⟩
  | getSetting name => do
    let setting ← (Config.find name).mapError .config
    return ⟨c.get setting ++ "\n", none⟩
  | setSetting name value => do
    let text ← (Config.change s.config name value).mapError .config
    return ⟨s!"Set {name} = {value}\n", some text⟩
  | listSettings => return ⟨settingLines s.configPath c, none⟩
  | configPath => return ⟨s.configPath ++ "\n", none⟩
  | initConfig force => do
    let text ← (Config.create s.configPath s.config force).mapError .config
    return ⟨s!"Created config file at {s.configPath}\n", some text⟩

/-- Runs an invocation. The format that is asked for goes before the configured one. -/
def Invocation.run (i : Invocation) (s : Surroundings) : Except Failure Success :=
  let c := Config.load s.config
  i.command.run s (.ofName (i.format.getD c.format)) c

structure Outcome where
  exitCode : Nat
  output : String := ""
  errors : String := ""
  /-- The new text of the configuration file, where it is written. -/
  config : Option String := none
  deriving DecidableEq, Repr

def Outcome.misuse : Outcome := { exitCode := 2 }

def Outcome.ofResult : Except Failure Success → Outcome
  | .ok r => { exitCode := 0, output := r.shown, config := r.config }
  | .error f => { exitCode := 1, errors := f.report }

end GraphSelect.CommandLine
