import GraphSelect.Regex.Expr
import GraphSelect.Regex.Flags
import GraphSelect.Text.Blank
import GraphSelect.Text.Natural
import GraphSelect.Text.Scan

/-! # Primitives of a pattern

What one character or one escape stands for: a character, a set of characters or a condition on a
place. In verbose patterns, blanks and comments may stand inside an escape too. Readers of
patterns fail without saying why. -/
namespace GraphSelect.Regex

open Text

abbrev Read := Scan Unit

def give {α : Type} : Option α → Read α
  | some a => pure a
  | none => Scan.fail ()

/-- The next character of a pattern that must not end here. -/
def take : Read Char := Scan.next ()

/-- Passes over blanks, and over comments from `#` to the end of the line. -/
def dropComments : (inComment : Bool) → List Char → List Char
  | _, [] => []
  | true, c :: s => dropComments (c ≠ '\n') s
  | false, c :: s =>
    if isBlank c then dropComments false s
    else if c = '#' then dropComments true s
    else c :: s

theorem length_dropComments_le (inComment : Bool) (s : List Char) :
    (dropComments inComment s).length ≤ s.length := by
  induction s generalizing inComment with
  | nil => cases inComment <;> simp [dropComments]
  | cons c s ih =>
    cases inComment with
    | true => exact Nat.le_succ_of_le (ih _)
    | false =>
      simp only [dropComments]
      split
      · exact Nat.le_succ_of_le (ih _)
      · split
        · exact Nat.le_succ_of_le (ih _)
        · exact Nat.le_refl _

def Flags.dropSpace (f : Flags) (s : List Char) : List Char :=
  if f.verbose then dropComments false s else s

theorem Flags.length_dropSpace_le (f : Flags) (s : List Char) :
    (f.dropSpace s).length ≤ s.length := by
  unfold dropSpace
  split
  · exact length_dropComments_le false s
  · exact Nat.le_refl _

@[simp] theorem Flags.dropSpace_of_not_verbose {f : Flags} (h : f.verbose = false)
    (s : List Char) : f.dropSpace s = s := by simp [dropSpace, h]

def Flags.rest (f : Flags) (s : List Char) : Rest s := ⟨f.dropSpace s, f.length_dropSpace_le s⟩

def space (f : Flags) : Read Unit := fun s => .ok ((), f.rest s)

@[simp] theorem run_space (f : Flags) (s : List Char) :
    (space f).run s = .ok ((), f.dropSpace s) := rfl

inductive Primitive
  /-- A character; `byte` says that two hexadecimal digits stand for it. -/
  | literal (c : Char) (byte : Bool)
  | set (s : CharSet)
  | look (l : Look)
  deriving Repr

/-- A set as it is meant in a class: with case partners where case is ignored, then complemented
where it is negated. Outside Unicode no complement is text. -/
def Flags.adjust? (f : Flags) (negated : Bool) (s : CharSet) : Option CharSet :=
  if f.unicode then
    let folded := if f.ignoreCase then .foldCase s else s
    some (if negated then .compl folded else folded)
  else if negated then none
  else some (if f.ignoreCase then .foldAscii s else s)

def Flags.letterClass? (f : Flags) (negated : Bool) (inUnicode inAscii : CharSet) :
    Option CharSet :=
  if f.unicode then some (if negated then .compl inUnicode else inUnicode)
  else if negated then none else some inAscii

/-- A character as a part of a pattern. Outside Unicode a byte beyond ASCII is no text. -/
def Flags.literal? (f : Flags) (c : Char) (byte : Bool) : Option CharSet :=
  if f.unicode then some (if f.ignoreCase then .foldCase (.single c) else .single c)
  else if byte && 128 ≤ c.toNat then none
  else some (if f.ignoreCase then .foldAscii (.single c) else .single c)

def charOf? (n : Nat) : Option Char := if n.isValidChar then some (Char.ofNat n) else none

def isHex (c : Char) : Bool := (hexDigit? c).isSome

def hexValue (digits : List Char) : Nat :=
  digits.foldl (fun n c => 16 * n + (hexDigit? c).getD 0) 0

def hexDigits (f : Flags) : Nat → Read (List Char)
  | 0 => pure []
  | n + 1 => do
    let c ← take
    if !isHex c then Scan.fail ()
    space f
    return c :: (← hexDigits f n)

/-- The longest run of characters that satisfy a predicate, between which verbose patterns may have
blanks. -/
def spacedRun (f : Flags) (p : Char → Bool) : Read (List Char) := fun s =>
  match s with
  | [] => .ok ([], .all [])
  | c :: s =>
    if p c then
      match spacedRun f p (f.rest s).1 with
      | .error e => .error e
      | .ok (cs, r) => .ok (c :: cs, ((Rest.tail c s).trans (f.rest s)).trans r)
    else .ok ([], .all (c :: s))
termination_by s => s.length
decreasing_by exact Rest.length_lt_cons c (f.rest s)

/-- All characters up to a closing brace, which is taken too. -/
def upToBrace (f : Flags) : Read (List Char) := do
  let cs ← spacedRun f (· ≠ '}')
  let _ ← take
  return cs

/-- A character by its number, behind `x`, `u` or `U`. -/
def hexEscape (f : Flags) (letter : Char) : Read Primitive := do
  space f
  if ← Scan.eat '\x7b' then
    space f
    let digits ← upToBrace f
    space f
    if digits.isEmpty || !digits.all isHex then Scan.fail ()
    return .literal (← give (charOf? (hexValue digits))) false
  else
    let digits ← hexDigits f (if letter = 'x' then 2 else if letter = 'u' then 4 else 8)
    return .literal (← give (charOf? (hexValue digits))) (letter = 'x')

/-- Splits a text at the first place where a separator stands. -/
def splitAt? (separator : List Char) : List Char → Option (List Char × List Char)
  | [] => none
  | c :: s =>
    if separator.isPrefixOf (c :: s) then some ([], (c :: s).drop separator.length)
    else (splitAt? separator s).map fun (a, b) => (c :: a, b)

/-- The set that the text of a property names: a name, or a name and a value. -/
def propertySet? (text : List Char) : Option CharSet :=
  match splitAt? ['!', '='] text <|> splitAt? [':'] text <|> splitAt? ['='] text with
  | some (name, value) => CharSet.propertyValue? name value
  | none => CharSet.property? text

def propertyEscape (f : Flags) (negated : Bool) : Read Primitive := do
  space f
  let text ← if ← Scan.eat '\x7b' then do
      space f
      upToBrace f
    else do
      let c ← take
      if c = '\\' then Scan.fail ()
      space f
      pure [c]
  if !f.unicode then Scan.fail ()
  return .set (← give ((propertySet? text).bind (f.adjust? negated)))

def isQualifier (c : Char) : Bool := c.isAlpha || c = '-'

/-- What follows `\b`: a kind of boundary in braces. Braces that do not start with a qualifying
character belong to a repetition and are left. -/
def boundary (f : Flags) : Read WordEdge := do
  match ← Scan.ahead with
  | '\x7b' :: rest =>
    match f.dropSpace rest with
    | [] => Scan.fail ()
    | c :: _ =>
      if !isQualifier c then return .boundary
      Scan.drop 1
      space f
      let name ← spacedRun f isQualifier
      if (← take) ≠ '}' then Scan.fail ()
      match String.ofList name with
      | "start" => return .start
      | "end" => return .finish
      | "start-half" => return .startHalf
      | "end-half" => return .finishHalf
      | _ => Scan.fail ()
  | _ => return .boundary

def isMeta (c : Char) : Bool :=
  ['\\', '.', '+', '*', '?', '(', ')', '|', '[', ']', '\x7b', '}', '^', '$', '#', '&', '-', '~'].contains c

/-- Characters that may be escaped without need. -/
def isEscapable (c : Char) : Bool :=
  c.toNat < 128 && !c.isAlphanum && c ≠ '<' && c ≠ '>'

def escape (f : Flags) : Read Primitive := do
  let c ← take
  let word (edge : WordEdge) : Primitive := .look (.word f.unicode edge)
  if c = 'x' || c = 'u' || c = 'U' then hexEscape f c
  else if c = 'p' || c = 'P' then propertyEscape f (c = 'P')
  else if isMeta c || isEscapable c then return .literal c false
  else match c with
    | 'd' => return .set (← give (f.letterClass? false .unicodeDigit .digit))
    | 'D' => return .set (← give (f.letterClass? true .unicodeDigit .digit))
    | 's' => return .set (← give (f.letterClass? false .unicodeSpace .asciiSpace))
    | 'S' => return .set (← give (f.letterClass? true .unicodeSpace .asciiSpace))
    | 'w' => return .set (← give (f.letterClass? false .unicodeWord .asciiWord))
    | 'W' => return .set (← give (f.letterClass? true .unicodeWord .asciiWord))
    | 'a' => return .literal '\x07' false
    | 'f' => return .literal '\x0c' false
    | 't' => return .literal '\t' false
    | 'n' => return .literal '\n' false
    | 'r' => return .literal '\r' false
    | 'v' => return .literal '\x0b' false
    | 'A' => return .look .textStart
    | 'z' => return .look .textEnd
    | 'b' => return word (← boundary f)
    | 'B' => return word .inside
    | '<' => return word .start
    | '>' => return word .finish
    | _ => Scan.fail ()

end GraphSelect.Regex
