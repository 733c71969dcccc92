import GraphSelect.Error
import GraphSelect.Regex.Match
import GraphSelect.Regex.Reader

/-! # Patterns for whole texts

Names and values in selectors are compared as whole texts. A pattern is therefore put between
anchors and read together with them; bare text is escaped first, so that it matches itself. -/
namespace GraphSelect

/-- A pattern that has been read, with its text. -/
structure Regex where
  source : String
  expr : Regex.Expr
  deriving Repr, Inhabited

namespace Regex

def ofText? (source : String) : Option Regex := (read? source.toList).map (⟨source, ·⟩)

def isMatch (r : Regex) (text : String) : Bool := r.expr.occursIn text.toList

/-- The text of a pattern between the anchors. -/
def anchor (body : List Char) : String := String.ofList (['^', '(', '?', ':'] ++ body ++ [')', '$'])

/-- Puts a backslash before each character with a meaning of its own. -/
def escapeAll (text : List Char) : List Char :=
  text.flatMap fun c => if isMeta c then ['\\', c] else [c]

/-- A pattern for whole texts. -/
def anchored (pattern : String) : Except Error Regex :=
  match ofText? (anchor pattern.toList) with
  | some r => .ok r
  | none => .error (.invalidRegex pattern)

/-- A pattern for one text. -/
def literal (text : String) : Except Error Regex :=
  match ofText? (anchor (escapeAll text.toList)) with
  | some r => .ok r
  | none => .error (.invalidRegex text)

end Regex

end GraphSelect
