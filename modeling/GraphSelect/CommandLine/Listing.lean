import GraphSelect.Graph.View
import GraphSelect.Json.Printer
import GraphSelect.Selector.Pattern
import GraphSelect.Text.Blank

/-! # Listings

Results are shown as plain text or as JSON. Nodes in plain text form a table with a header: columns
are as wide as their longest cell in characters, two blanks stand between them, and no line ends in
a blank. -/
namespace GraphSelect.CommandLine

inductive OutputFormat | table | json
  deriving DecidableEq, Repr

/-- The format of a name in any case of letters; every name but one means plain text. -/
def OutputFormat.ofName (name : String) : OutputFormat :=
  if name.map Char.toLower = "json" then .json else .table

abbrev Row := String × String × String

def header : Row := ("ID", "PATH", "ATTRIBUTES")

def attributeText (a : Attributes) : String :=
  String.intercalate " " (a.entries.map fun p => p.1 ++ "=" ++ p.2)

def row (v : NodeView) : Row := (NodeId.label v.id, v.path, attributeText v.attributes)

/-- The number of characters of the longest cell of a column. -/
def width (cells : List String) : Nat := cells.foldl (fun w cell => max w cell.length) 0

def padded (width : Nat) (cell : String) : String :=
  cell ++ String.ofList (List.replicate (width - cell.length) ' ')

def line (idWidth pathWidth attributesWidth : Nat) (r : Row) : String :=
  let text := padded idWidth r.1 ++ "  " ++ padded pathWidth r.2.1 ++ "  " ++
    padded attributesWidth r.2.2
  String.ofList (Text.trimEnd text.toList) ++ "\n"

def table (nodes : List NodeView) : String :=
  let rows := header :: nodes.map row
  let column (cell : Row → String) := width (rows.map cell)
  String.join (rows.map (line (column (·.1)) (column (·.2.1)) (column (·.2.2))))

open Json (Output)

def optionalField (name : String) (value : Option Nat) : List (String × Output) :=
  value.toList.map fun n => (name, .natural n)

def nodeOutput (v : NodeView) : Output :=
  .record ([("id", .natural v.id), ("name", .text v.name), ("path", .text v.path)] ++
    optionalField "index" v.index ++ optionalField "depth" v.depth ++
    [("attributes", .record (v.attributes.entries.map fun p => (p.1, .text p.2)))])

def stageOutput (s : Stage) : Output :=
  .record [("filters", .list (s.filters.map fun f => .text f.render)),
    ("relation", .text s.relation.name)]

def patternOutput (p : Pattern) : Output :=
  .record [("selector", .text p.source), ("stages", .list (p.stages.map stageOutput))]

def document (o : Output) : String := o.pretty ++ "\n"

def showNodes (nodes : List NodeView) : OutputFormat → String
  | .table => table nodes
  | .json => document (.list (nodes.map nodeOutput))

def showPattern (p : Pattern) : OutputFormat → String
  | .table => p.render ++ "\n"
  | .json => document (patternOutput p)

def showFunctions (names : List String) : OutputFormat → String
  | .table => String.join (names.map (· ++ "()\n"))
  | .json => document (.list (names.map .text))

end GraphSelect.CommandLine
