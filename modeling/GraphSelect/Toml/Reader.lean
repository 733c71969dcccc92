import GraphSelect.Toml.Number
import GraphSelect.Toml.Table
import GraphSelect.Toml.Text

/-! # Reading TOML

A document is a row of statements: headers of tables, headers of the elements of lists of tables,
and assignments, which belong to the table of the last header. The statements are read first and
carried out afterwards. Lists and inline tables are nested up to a limit, so the reader of values
is defined by recursion on the levels that are still allowed. -/
namespace GraphSelect.Toml

open Text

/-- A value given to a name; the names before the last are those of tables around it. -/
structure Assignment where
  path : List String
  name : String
  value : Data

inductive Statement
  | table (path : List String) (name : String)
  | element (path : List String) (name : String)
  | assignment (a : Assignment)

def isBareChar (c : Char) : Bool := c.isAlphanum || c = '_' || c = '-'

def simpleName : Scan Unit String := do
  match ← Scan.peek with
  | some '"' => do
    Scan.drop 1
    lineText '"'
  | some '\'' => do
    Scan.drop 1
    lineText '\''
  | _ => do
    let cs ← Scan.takeWhile isBareChar
    if cs.isEmpty then Scan.fail ()
    return String.ofList cs

/-- The largest number of names that dots may join, and of levels of nesting. -/
def maxDepth : Nat := 79

/-- Names joined by dots: those before the last, and the last. -/
def dottedName : Scan Unit (List String × String) := do
  let spaced : Scan Unit String := do
    blanks
    let name ← simpleName
    blanks
    return name
  let first ← spaced
  let rest ← Scan.many do
    if ← Scan.eat '.' then return some (← spaced) else return none
  let names := first :: rest
  if maxDepth < names.length then Scan.fail ()
  return (names.dropLast, names.getLastD first)

/-- Blanks, comments and line breaks between the items of a list. -/
def gap : Scan Unit Unit := do
  let _ ← Scan.many do
    let s ← Scan.takeWhile isBlank
    if ← Scan.eat '#' then
      let _ ← Scan.takeWhile isPlain
      if ← lineBreak then return some () else Scan.fail ()
    else if ← lineBreak then return some ()
    else return if s.isEmpty then none else some ()

/-- An item of a list with the comma behind it, which only the last item can do without. -/
def listItem (inner : Scan Unit Data) : Scan Unit (Option Data) := do
  gap
  if (← Scan.peek) = some ']' then return none
  let item ← inner
  gap
  let comma ← Scan.eat ','
  let next ← Scan.peek
  if comma || next = some ']' then return some item else Scan.fail ()

def listItems (inner : Scan Unit Data) : Scan Unit (List Data) := do
  let items ← Scan.many (listItem inner)
  if ← Scan.eat ']' then return items else Scan.fail ()

def assignment (inner : Scan Unit Data) : Scan Unit Assignment := do
  let (path, name) ← dottedName
  expect '='
  blanks
  let value ← inner
  blanks
  return ⟨path, name, value⟩

def assignAll : List Assignment → Fields → Option Fields
  | [], fields => some fields
  | a :: rest, fields => (Fields.assign a.path a.name a.value fields).bind (assignAll rest)

def inlineTable (inner : Scan Unit Data) : Scan Unit Data := do
  blanks
  let assignments ← if ← Scan.eat '}' then pure [] else Scan.commaList () (assignment inner) '}'
  match assignAll assignments [] with
  | some fields => return .record (toRecord fields)
  | none => Scan.fail ()

def dateTimeField : String := "$__toml_private_datetime"

def dateOrNumber : Scan Unit Data := do
  match ← dateTime? with
  | some d => return .record [(dateTimeField, .text d.text)]
  | none => number

/-- A value; `inner` reads the values inside, where they are allowed. -/
def valueWith (inner : Scan Unit Data) : Scan Unit Data := do
  match ← Scan.peek with
  | some '[' => do
    Scan.drop 1
    return .list (← listItems inner)
  | some '\x7b' => do
    Scan.drop 1
    inlineTable inner
  | some '"' => return .text (← text '"')
  | some '\'' => return .text (← text '\'')
  | some 't' => do
    if ← Scan.eatAll ['t', 'r', 'u', 'e'] then return .bool true else Scan.fail ()
  | some 'f' => do
    if ← Scan.eatAll ['f', 'a', 'l', 's', 'e'] then return .bool false else Scan.fail ()
  | _ => dateOrNumber

/-- A value that is no list or inline table. -/
def scalar : Scan Unit Data := do
  let next ← Scan.peek
  if next = some '[' || next = some '\x7b' then Scan.fail () else valueWith (Scan.fail ())

/-- A value in which lists and inline tables may be nested up to `levels` deep. -/
def value : (levels : Nat) → Scan Unit Data
  | 0 => scalar
  | levels + 1 => valueWith (value levels)

/-- The rest of a line: blanks, perhaps a comment, and the end of the line or of the document. -/
def lineEnd : Scan Unit Unit := do
  blanks
  if ← Scan.eat '#' then
    let _ ← Scan.takeWhile isPlain
  if !(← lineBreak) then
    if (← Scan.peek).isSome then Scan.fail ()

def statement : Scan Unit Statement := do
  if ← Scan.eatAll ['[', '['] then
    let (path, name) ← dottedName
    if ← Scan.eatAll [']', ']'] then return .element path name else Scan.fail ()
  else if ← Scan.eat '[' then
    let (path, name) ← dottedName
    if ← Scan.eat ']' then return .table path name else Scan.fail ()
  else return .assignment (← assignment (value maxDepth))

def line : Scan Unit (Option (Option Statement)) := do
  blanks
  match ← Scan.peek with
  | none => return none
  | some c =>
    if c = '#' || c = '\n' || c = '\r' then do
      lineEnd
      return some none
    else do
      let s ← statement
      lineEnd
      return some (some s)

/-- Carries out statements in a document whose last header has the given path. -/
def carryOut : (header : List String) → List Statement → Fields → Option Fields
  | _, [], fields => some fields
  | _, .table path name :: rest, fields =>
    (Fields.within .implied (fun _ => Fields.openTable name) path .header fields).bind
      (carryOut (path ++ [name]) rest)
  | _, .element path name :: rest, fields =>
    (Fields.within .implied (fun _ => Fields.openElement name) path .header fields).bind
      (carryOut (path ++ [name]) rest)
  | header, .assignment a :: rest, fields =>
    (Fields.within .implied (fun _ => Fields.assign a.path a.name a.value) header .header
      fields).bind (carryOut header rest)

/-- The statements of a text, which may begin with a byte order mark. -/
def statements? (text : List Char) : Option (List Statement) :=
  let text := if text.head? = some '\ufeff' then text.tail else text
  match (Scan.many line).run text with
  | .ok (lines, []) => some (lines.filterMap id)
  | _ => none

def read? (text : String) : Option Data := do
  let fields ← carryOut [] (← statements? text.toList) []
  return .record (toRecord fields)

end GraphSelect.Toml
