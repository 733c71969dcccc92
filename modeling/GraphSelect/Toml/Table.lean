import GraphSelect.Data

/-! # Tables under construction

The headers of a document and the dotted names of its assignments build one tree of tables. A
table may be completed by a header once, when it is only implied by longer headers, and by dotted
names only as long as it was itself made by dotted names; the values of assignments are never
changed. What breaks these rules has no meaning, so every step may fail. -/
namespace GraphSelect.Toml

/-- How a table came to be. -/
inductive Origin
  /-- It has a header, or is the whole document. -/
  | header
  /-- A longer header passes through it. -/
  | implied
  /-- A dotted name passes through it. -/
  | dotted
  deriving DecidableEq, Repr

inductive Item
  /-- The value of an assignment. -/
  | value (d : Data)
  | table (origin : Origin) (fields : List (String × Item))
  /-- A list of tables, the last first. -/
  | tables (elements : List (List (String × Item)))
  deriving Inhabited

abbrev Fields := List (String × Item)

namespace Fields

/-- Puts an item under a name, in place of an earlier one. -/
def set (name : String) (item : Item) : Fields → Fields
  | [] => [(name, item)]
  | (n, i) :: rest => if n = name then (n, item) :: rest else (n, i) :: set name item rest

/-- Changes the table at the end of a path, which may depend on how that table came to be. Missing
tables are made on the way; a path through a list of tables goes to its last one, and a path of
dotted names goes through no table that has a header. -/
def within (made : Origin) (change : Origin → Fields → Option Fields) :
    (path : List String) → Origin → Fields → Option Fields
  | [], origin, fields => change origin fields
  | name :: path, _, fields =>
    match fields.lookup name with
    | none => (within made change path made []).map fun sub => set name (.table made sub) fields
    | some (.table origin sub) =>
      if made = .dotted && origin = .header then none
      else (within made change path origin sub).map fun sub =>
        set name (.table origin sub) fields
    | some (.tables (last :: earlier)) =>
      (within made change path .header last).map fun last =>
        set name (.tables (last :: earlier)) fields
    | some (.tables []) => none
    | some (.value _) => none

/-- Gives a value to a new name in a table. -/
def assign (path : List String) (name : String) (value : Data) : Fields → Option Fields :=
  within .dotted (fun origin fields =>
    if (origin = .dotted) = path.isEmpty then none
    else match fields.lookup name with
      | some _ => none
      | none => some (set name (.value value) fields)) path .header

/-- Gives a header to the table of a name. -/
def openTable (name : String) (fields : Fields) : Option Fields :=
  match fields.lookup name with
  | none => some (set name (.table .header []) fields)
  | some (.table .implied sub) => some (set name (.table .header sub) fields)
  | some _ => none

/-- Adds an empty table to the list of a name. -/
def openElement (name : String) (fields : Fields) : Option Fields :=
  match fields.lookup name with
  | none => some (set name (.tables [[]]) fields)
  | some (.tables elements) => some (set name (.tables ([] :: elements)) fields)
  | some _ => none

end Fields

mutual

def Item.toData : Item → Data
  | .value d => d
  | .table _ fields => .record (toRecord fields)
  | .tables elements => .list (toRecords elements).reverse

def toRecord : List (String × Item) → List (String × Data)
  | [] => []
  | (name, item) :: rest => (name, item.toData) :: toRecord rest

def toRecords : List (List (String × Item)) → List Data
  | [] => []
  | fields :: rest => .record (toRecord fields) :: toRecords rest

end

end GraphSelect.Toml
