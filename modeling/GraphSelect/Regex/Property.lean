import GraphSelect.Regex.CharSet
import GraphSelect.Unicode.Age
import GraphSelect.Unicode.Category
import GraphSelect.Unicode.GraphemeBreak
import GraphSelect.Unicode.Property
import GraphSelect.Unicode.Script
import GraphSelect.Unicode.ScriptExtensions
import GraphSelect.Unicode.SentenceBreak
import GraphSelect.Unicode.WordBreak

/-! # Character properties by name

A pattern names a property alone, such as a category, a script or a yes-or-no property, or with a
value. Names are compared without case, blanks, hyphens and underscores, and without a leading
`is`. -/
namespace GraphSelect.Regex

open Unicode

namespace CharSet

def ofCategories (names : List String) : CharSet :=
  unionAll (names.filterMap fun name => (findRow categories name).map table)

/-- The groups of categories, under their short and long names. -/
def categoryGroups : List (List String × List String) := [
  (["c", "other"], ["cc", "cf", "cn", "co"]),
  (["l", "letter"], ["ll", "lm", "lo", "lt", "lu"]),
  (["lc", "casedletter"], ["ll", "lt", "lu"]),
  (["m", "mark", "combiningmark"], ["mc", "me", "mn"]),
  (["n", "number"], ["nd", "nl", "no"]),
  (["p", "punctuation", "punct"], ["pc", "pd", "pe", "pf", "pi", "po", "ps"]),
  (["s", "symbol"], ["sc", "sk", "sm", "so"]),
  (["z", "separator"], ["zl", "zp", "zs"])]

/-- A general category or a group of them; `any`, `assigned` and `ascii` count as such. -/
def category? (name : String) : Option CharSet :=
  if name = "any" then some full
  else if name = "assigned" then some (compl (ofCategories ["cn"]))
  else if name = "ascii" then some (range '\x00' '\x7f')
  else match categoryGroups.find? fun group => group.1.contains name with
    | some group => some (ofCategories group.2)
    | none => (findRow categories name).map table

def script? (name : String) : Option CharSet := (findRow scripts name).map table

/-- All characters used with a script. -/
def extendedScript? (name : String) : Option CharSet :=
  match findRow extendedScripts name with
  | some r => some (table r)
  | none => script? name

def age? (name : String) : Option CharSet :=
  match ages.findIdx? fun row => (words row.1).contains name with
  | some i => some (unionAll ((ages.take (i + 1)).map fun row => table (.ofText row.2)))
  | none => none

def normalName (name : List Char) : String :=
  let stripped := match name with
    | a :: b :: rest =>
      if (a = 'i' || a = 'I') && (b = 's' || b = 'S') then rest else name
    | _ => name
  let plain := (stripped.filter fun c => c.toNat < 128 && c ≠ ' ' && c ≠ '_' && c ≠ '-').map Char.toLower
  if stripped.length < name.length && plain = ['c'] then "isc" else String.ofList plain

/-- The set of a property that is named alone. Three abbreviations of categories are also
abbreviations of other properties and mean the category. -/
def property? (name : List Char) : Option CharSet :=
  let name := normalName name
  let yesNo := if name = "cf" || name = "sc" || name = "lc" then none else
    (findRow properties name).map table
  yesNo <|> category? name <|> script? name

def propertyValue? (property value : List Char) : Option CharSet :=
  let value := normalName value
  match normalName property with
  | "gc" | "generalcategory" => category? value
  | "sc" | "script" => script? value
  | "scx" | "scriptextensions" => extendedScript? value
  | "age" => age? value
  | "gcb" | "graphemeclusterbreak" => (findRow graphemeBreaks value).map table
  | "wb" | "wordbreak" => (findRow wordBreaks value).map table
  | "sb" | "sentencebreak" => (findRow sentenceBreaks value).map table
  | _ => none

/-- Decimal digits of all scripts. -/
def unicodeDigit : CharSet := ofCategories ["nd"]

def unicodeSpace : CharSet := unionAll ((findRow properties "whitespace").toList.map table)

/-- Letters, marks, digits, connectors and joiners. -/
def unicodeWord : CharSet :=
  unionAll ((["alphabetic", "joincontrol"].filterMap (findRow properties)).map table ++
    [ofCategories ["mc", "me", "mn", "nd", "pc"]])

/-- Characters that can stand first in the name of a group. -/
def alphabetic : CharSet := unionAll ((findRow properties "alphabetic").toList.map table)

def alphanumeric : CharSet := union alphabetic (ofCategories ["nd", "nl", "no"])

end CharSet

end GraphSelect.Regex
