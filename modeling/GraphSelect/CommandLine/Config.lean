import GraphSelect.Limits
import GraphSelect.Toml.Reader
import GraphSelect.Toml.Writer
import GraphSelect.Text.Natural
import GraphSelect.Traversal.Strategy

/-! # The configuration of the command line

Three settings are kept in a file. A file that cannot be read as a configuration counts for
nothing, and a setting that it does not name has its default. Settings are shown to the user under
short names and are written to the file under long ones, and both are read back. -/
namespace GraphSelect.CommandLine

inductive Setting | format | strategy | nodeLimit
  deriving DecidableEq, Repr

namespace Setting

def name : Setting → String
  | format => "format"
  | strategy => "strategy"
  | nodeLimit => "node_limit"

/-- All settings in the order in which they are listed and written. -/
def all : List Setting := [format, strategy, nodeLimit]

def ofName? (name : String) : Option Setting := all.find? (·.name = name)

@[simp] theorem ofName?_name (s : Setting) : ofName? s.name = some s := by cases s <;> decide

theorem name_of_ofName? {name : String} {s : Setting} (h : ofName? name = some s) :
    s.name = name := by
  simpa using List.find?_some h

end Setting

inductive ConfigFault
  | unknownSetting (name : String)
  | invalidFormat (value : String)
  | invalidStrategy (value : String)
  | invalidNodeLimit (value : String)
  | zeroNodeLimit
  /-- The limit does not fit in the integers of the file. -/
  | nodeLimitTooLarge
  /-- There is a file already. -/
  | exists (path : String)
  deriving DecidableEq, Repr

def ConfigFault.message : ConfigFault → String
  | unknownSetting name =>
    s!"Unknown config key: {name} (available: " ++
      String.intercalate ", " (Setting.all.map Setting.name) ++ ")"
  | invalidFormat value => s!"Invalid format '{value}': expected table or json"
  | invalidStrategy value => s!"Invalid strategy '{value}': expected bfs or dfs"
  | invalidNodeLimit value => s!"Invalid node_limit '{value}'"
  | zeroNodeLimit => "node_limit must be positive"
  | nodeLimitTooLarge => "out-of-range value for u64 type"
  | .exists path => s!"Config file already exists at {path}. Use --force to overwrite."

/-- The name of a strategy for the user. -/
def shortName : Strategy → String
  | .breadthFirst => "bfs"
  | .depthFirst => "dfs"

def longName : Strategy → String
  | .breadthFirst => "breadthfirst"
  | .depthFirst => "depthfirst"

def strategyOfName? (name : String) : Option Strategy :=
  [Strategy.breadthFirst, .depthFirst].find? fun s => name = shortName s || name = longName s

structure Config where
  format : String := "table"
  strategy : Strategy := .breadthFirst
  nodeLimit : Nat := Limits.maxTraversalNodes
  deriving DecidableEq, Repr, Inhabited

namespace Config

/-- A strategy by its name, or by the name of the only field of a record with nothing in it. -/
def strategyOfData? : Data → Option Strategy
  | .text name => strategyOfName? name
  | .record [(name, .record [])] | .record [(name, .list [])] => strategyOfName? name
  | _ => none

def fieldOr {α : Type} (default : α) (read : Data → Option α) (fields : List (String × Data))
    (s : Setting) : Option α :=
  match Data.field? fields s.name with
  | none => none
  | some none => some default
  | some (some d) => read d

def ofData? : Data → Option Config
  | .record fields => do
    let default : Config := {}
    let text? : Data → Option String
      | .text s => some s
      | _ => none
    let natural? : Data → Option Nat
      | .int i => if 0 ≤ i then some i.toNat else none
      | _ => none
    return ⟨← fieldOr default.format text? fields .format,
      ← fieldOr default.strategy strategyOfData? fields .strategy,
      ← fieldOr default.nodeLimit natural? fields .nodeLimit⟩
  | _ => none

/-- The configuration in a text, which is the default one where the text holds none. -/
def ofText (text : String) : Config := ((Toml.read? text).bind ofData?).getD {}

/-- The configuration in a file, which may be missing. -/
def load (file : Option String) : Config := file.elim {} ofText

/-- The text that is written to the file. -/
def toText (c : Config) : Except ConfigFault String :=
  if Text.signedBound ≤ c.nodeLimit then .error .nodeLimitTooLarge
  else .ok (s!"format = {Toml.quote c.format}\n" ++ s!"strategy = {Toml.quote (longName c.strategy)}\n" ++
    s!"node_limit = {c.nodeLimit}\n")

def get (c : Config) : Setting → String
  | .format => c.format
  | .strategy => shortName c.strategy
  | .nodeLimit => toString c.nodeLimit

def set (c : Config) (value : String) : Setting → Except ConfigFault Config
  | .format =>
    if value = "table" || value = "json" then .ok { c with format := value }
    else .error (.invalidFormat value)
  | .strategy =>
    match strategyOfName? value with
    | some strategy => .ok { c with strategy }
    | none => .error (.invalidStrategy value)
  | .nodeLimit =>
    match Text.readNatural value.toList with
    | some 0 => .error .zeroNodeLimit
    | some nodeLimit => .ok { c with nodeLimit }
    | none => .error (.invalidNodeLimit value)

def find (name : String) : Except ConfigFault Setting :=
  match Setting.ofName? name with
  | some s => .ok s
  | none => .error (.unknownSetting name)

/-- A change of one setting keeps the others. -/
theorem get_of_set {c d : Config} {value : String} {s t : Setting}
    (h : c.set value s = .ok d) (hts : t ≠ s) : d.get t = c.get t := by
  cases s with
  | format =>
    simp only [set] at h
    split at h
    · cases h
      cases t with
      | format => exact absurd rfl hts
      | strategy => rfl
      | nodeLimit => rfl
    · cases h
  | strategy =>
    simp only [set] at h
    split at h
    · cases h
      cases t with
      | format => rfl
      | strategy => exact absurd rfl hts
      | nodeLimit => rfl
    · cases h
  | nodeLimit =>
    simp only [set] at h
    split at h
    · cases h
    · cases h
      cases t with
      | format => rfl
      | strategy => rfl
      | nodeLimit => exact absurd rfl hts
    · cases h

/-- The text of the file after a setting is changed in it. -/
def change (file : Option String) (name value : String) : Except ConfigFault String := do
  let setting ← find name
  let config ← (load file).set value setting
  config.toText

/-- The text of a new file, which replaces an old one only by force. -/
def create (path : String) (file : Option String) (force : Bool) : Except ConfigFault String :=
  if file.isSome && !force then .error (.exists path) else ({} : Config).toText

end Config

end GraphSelect.CommandLine
