import GraphSelect.Text.Natural
import GraphSelect.Text.Scan

/-! # Texts in TOML

A text stands between quotation marks, inside which a backslash begins an escape, or between
apostrophes, inside which every character stands for itself. Three of the marks on each side allow
it to go over several lines: a line break right behind the opening marks does not belong to it, a
backslash at the end of a line joins the next words to it, and one or two marks that do not close
it are part of it. -/
namespace GraphSelect.Toml

open Text

/-- Characters that may stand in comments and, marks and backslashes apart, in texts. -/
def isPlain (c : Char) : Bool := c = '\t' || (0x20 ≤ c.toNat && c.toNat ≠ 0x7f)

def isBlank (c : Char) : Bool := c = ' ' || c = '\t'

def blanks : Scan Unit Unit := do let _ ← Scan.takeWhile isBlank

def lineBreak : Scan Unit Bool := do
  if ← Scan.eat '\n' then return true else Scan.eatAll ['\r', '\n']

def hexEscape (count : Nat) : Scan Unit Char := do
  let digits := ((← Scan.ahead).take count).filterMap hexDigit?
  let n := digits.foldl (fun n d => n * 16 + d) 0
  if digits.length < count || !Nat.isValidChar n then Scan.fail ()
  Scan.drop count
  return Char.ofNat n

def escape : Scan Unit Char := do
  match ← Scan.next () with
  | 'b' => return '\x08'
  | 'f' => return '\x0c'
  | 'n' => return '\n'
  | 'r' => return '\r'
  | 't' => return '\t'
  | '"' => return '"'
  | '\\' => return '\\'
  | 'u' => hexEscape 4
  | 'U' => hexEscape 8
  | _ => Scan.fail ()

def escapes (mark : Char) : Bool := mark = '"'

def lineChar (mark : Char) : Scan Unit (Option Char) := do
  match ← Scan.peek with
  | none => return none
  | some c =>
    if c = '\\' && escapes mark then do
      Scan.drop 1
      return some (← escape)
    else if isPlain c && c ≠ mark then do
      Scan.drop 1
      return some c
    else return none

/-- The rest of a text on one line, behind its opening mark. -/
def lineText (mark : Char) : Scan Unit String := do
  let cs ← Scan.many (lineChar mark)
  if ← Scan.eat mark then return String.ofList cs else Scan.fail ()

def emptyLines : Scan Unit Unit := do
  let _ ← Scan.many do
    let s ← Scan.takeWhile isBlank
    if ← lineBreak then return some () else return if s.isEmpty then none else some ()

/-- What a backslash in a text over several lines stands for, behind the backslash. -/
def escapeOrJoin : Scan Unit (List Char) := do
  let s ← Scan.takeWhile isBlank
  if ← lineBreak then do
    emptyLines
    return []
  else if s.isEmpty then return [← escape]
  else Scan.fail ()

/-- A piece of a text over several lines. Up to two marks in a row belong to the text. -/
def linesPiece (mark : Char) : Scan Unit (Option (List Char)) := do
  if ← lineBreak then return some ['\n']
  let s ← Scan.ahead
  match s with
  | [] => return none
  | c :: _ =>
    if c = mark then
      let marks := s.takeWhile (· = mark)
      if marks.length < 3 then do
        Scan.drop marks.length
        return some marks
      else return none
    else if c = '\\' && escapes mark then do
      Scan.drop 1
      return some (← escapeOrJoin)
    else if isPlain c then do
      Scan.drop 1
      return some [c]
    else return none

/-- The rest of a text over several lines, behind its opening marks. Of the closing marks those
before the last three belong to the text. -/
def linesText (mark : Char) : Scan Unit String := do
  let _ ← lineBreak
  let pieces ← Scan.many (linesPiece mark)
  let marks ← Scan.takeWhile (· = mark)
  if marks.length < 3 || 5 < marks.length then Scan.fail ()
  return String.ofList (pieces.flatten ++ marks.drop 3)

def text (mark : Char) : Scan Unit String := do
  if ← Scan.eatAll [mark, mark, mark] then linesText mark
  else do
    Scan.drop 1
    lineText mark

end GraphSelect.Toml
