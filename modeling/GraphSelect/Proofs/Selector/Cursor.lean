import GraphSelect.Selector.Compile

/-!
# A compiler on byte positions

A compiler that goes through the whole text with a byte position, where the compiler of the program
hands on what is left of the text. It slices the text at byte offsets, which fails outside of the
text and inside of a character; it returns to offsets that it remembers and looks ahead by lengths
that it has counted; the rounds of its loops and the selectors inside each other are counted, and
what it puts together is checked. Every such check may end a run without an answer, so a run that
does have an answer has passed them all.
-/
namespace GraphSelect

open Text
open Selector (isIdentChar isQuote endsIndex)

/-- The parts of a text in front of a byte offset and behind it, unless the offset is out of the text
or inside a character. -/
def Text.cut? : (offset : Nat) → List Char → Option (List Char × List Char)
  | 0, s => some ([], s)
  | _ + 1, [] => none
  | n + 1, c :: s =>
    if c.utf8Size ≤ n + 1 then (cut? (n + 1 - c.utf8Size) s).map fun (a, b) => (c :: a, b) else none

namespace Cursor

inductive Halt
  /-- A slice leaves the text or cuts a character. -/
  | badSlice
  /-- A stage without filters, or a pattern without stages. -/
  | assertion
  /-- The selector has ended before the text. -/
  | trailing
  /-- The rounds are used up. -/
  | endless
  | error (e : Error)

/-- Programs that move a byte position through a text. -/
def Move (α : Type) := (src : List Char) → (pos : Nat) → Except Halt (α × Nat)

variable {α β : Type}

instance : Monad Move where
  pure a _ pos := .ok (a, pos)
  bind m f src pos :=
    match m src pos with
    | .ok (a, pos') => f a src pos'
    | .error h => .error h

def Move.run (m : Move α) (src : List Char) (pos : Nat) : Except Halt (α × Nat) := m src pos

def halt (h : Halt) : Move α := fun _ _ => .error h

def error (e : Error) : Move α := halt (.error e)

def lift : Except Error α → Move α
  | .ok a => pure a
  | .error e => error e

def fault (position : Nat) (what : SelectorFault) : Move α := error (.malformed position what)

def position : Move Nat := fun _ pos => .ok (pos, pos)

def slice (first last : Nat) : Move (List Char) := fun src pos =>
  if last < first then .error .badSlice
  else match cut? first src with
    | none => .error .badSlice
    | some (_, s) =>
      match cut? (last - first) s with
      | none => .error .badSlice
      | some (t, _) => .ok (t, pos)

def rest : Move (List Char) := fun src pos =>
  match cut? pos src with
  | none => .error .badSlice
  | some (_, s) => .ok (s, pos)

def atEnd : Move Bool := fun src pos => .ok (byteLength src ≤ pos, pos)

/-- Moves on by a number of bytes, but not out of the text. -/
def advance (bytes : Nat) : Move Unit := fun src pos => .ok ((), min (pos + bytes) (byteLength src))

def lookahead (m : Move α) : Move α := fun src pos =>
  match m src pos with
  | .ok (a, _) => .ok (a, pos)
  | .error h => .error h

def peek : Move (Option Char) := do return (← rest).head?

/-- The character that begins an offset further on, if one does. -/
def peekAt (offset : Nat) : Move (Option Char) := do
  return (cut? offset (← rest)).bind fun (_, s) => s.head?

def startsWith (t : List Char) : Move Bool := do return t.isPrefixOf (← rest)

def eat (c : Char) : Move Bool := do
  if (← peek) = some c then
    advance c.utf8Size
    return true
  else return false

def eatAll (t : List Char) : Move Bool := do
  if ← startsWith t then
    advance (byteLength t)
    return true
  else return false

/-- The number of bytes of the longest run of characters that satisfy a predicate. -/
def countWhile (p : Char → Bool) : Move Nat := do return byteLength ((← rest).takeWhile p)

def blanks : Move Bool := do
  let n ← countWhile isBlank
  advance n
  return 0 < n

def take (bytes : Nat) : Move (List Char) := do
  let start ← position
  let t ← slice start (start + bytes)
  advance bytes
  return t

/-- Whether a segment ends an offset further on. -/
def isBoundary (inBlock : Bool) (offset : Nat) : Move Bool := do
  match ← peekAt offset with
  | none => return true
  | some c => return isBlank c || c = '/' || (inBlock && c = '}')

def atClose (inBlock : Bool) : Move Bool := do
  if ← atEnd then return true
  else return inBlock && (← peek) = some '}'

def unexpected : Move α := do
  match ← peek with
  | some c => fault (← position) (.unexpected c)
  | none => fault (← position) .unexpectedEnd

/-- The content in front of the closing quote, and the offset of this quote, where the text begins at
an offset itself. -/
def closing? (quote : Char) : (offset : Nat) → List Char → Option (List Char × Nat)
  | _, [] => none
  | i, [c] => if c = quote then some ([], i) else none
  | i, c :: d :: s =>
    if c = quote then some ([], i)
    else if c = '\\' && d = quote then
      (closing? quote (i + c.utf8Size + d.utf8Size) s).map fun (t, j) => (d :: t, j)
    else (closing? quote (i + c.utf8Size) (d :: s)).map fun (t, j) => (c :: t, j)

def quoted? : Move (Option String) := do
  let start ← position
  match ← peek with
  | none => return none
  | some c =>
    if isQuote c then
      advance 1
      match closing? c 0 (← rest) with
      | some (t, i) =>
        advance (i + 1)
        return some (String.ofList t)
      | none => fault start .openQuote
    else return none

/-- A name: a quoted pattern, or a word with no parenthesis behind it. -/
def nameSnippet : Move (Option Filter) := do
  match ← quoted? with
  | some pattern => return some (.name (← lift (Regex.anchored pattern)))
  | none =>
    let n ← countWhile isIdentChar
    if n = 0 then return none
    else if (← peekAt n) = some '(' then return none
    else
      let word ← take n
      return some (.name (← lift (Regex.literal (String.ofList word))))

def starSnippet : Move (Option Filter) := do
  if (← peek) = some '*' then
    if (← peekAt 1) = some '*' then return none
    else
      advance 1
      return some .any
  else return none

def index : Move Filter := do
  let n ← countWhile Char.isDigit
  let digits ← take n
  let follows ← peek
  let mayFollow (c : Char) : Bool := endsIndex c || c = '[' || c = '\x7b' || c = '}'
  if n = 0 || follows.any (!mayFollow ·) then
    let trailing ← take (← countWhile (!endsIndex ·))
    error (.invalidIndex (String.ofList ('#' :: digits ++ trailing)))
  else match readDigits digits with
    | some i => return .index i
    | none => error (.invalidIndex (String.ofList ('#' :: digits)))

def indexSnippet : Move (Option Filter) := do
  if ← eat '#' then return some (← index) else return none

def attributeName : Move Regex := do
  if ← eat '*' then lift (Regex.anchored ".*")
  else match ← quoted? with
    | some pattern => lift (Regex.anchored pattern)
    | none =>
      let n ← countWhile isIdentChar
      if n = 0 then fault (← position) .missingAttributeName
      else lift (Regex.literal (String.ofList (← take n)))

def attributeValue : Move Regex := do
  match ← quoted? with
  | some pattern => lift (Regex.anchored pattern)
  | none =>
    let text ← take (← countWhile (· ≠ ']'))
    lift (Regex.literal (String.ofList (trim text)))

def clause (start : Nat) : Move Filter := do
  let _ ← blanks
  let name ← attributeName
  let _ ← blanks
  let value ← if ← eat '=' then do
      let _ ← blanks
      pure (some (← attributeValue))
    else pure none
  let _ ← blanks
  if ← eat ']' then return .hasAttribute name value
  else fault start .openAttribute

def clauseSnippet : Move (Option Filter) := do
  let start ← position
  if ← eat '[' then return some (← clause start) else return none

def argumentValue : Move (String × Bool) := do
  match ← quoted? with
  | some text => return (text, true)
  | none =>
    let n ← countWhile fun c => c ≠ ',' && c ≠ ')'
    let start ← position
    let text := trim (← slice start (start + n))
    if text.isEmpty then fault start .missingArgument
    else
      advance n
      return (String.ofList text, false)

/-- The name of an argument, with the equals sign behind it, if both stand ahead. -/
def argumentKey : Move (Option String) := do
  let n ← countWhile isIdentChar
  let next ← lookahead do
    advance n
    let _ ← blanks
    peek
  if 0 < n && next = some '=' then
    let key ← take n
    let _ ← blanks
    advance 1
    let _ ← blanks
    return some (String.ofList key)
  else return none

def argument : Move (Option String × String × Bool) := do
  let _ ← blanks
  let key ← argumentKey
  let (value, isQuoted) ← argumentValue
  let _ ← blanks
  return (key, value, isQuoted)

/-- The arguments of a call, behind those that have been read. -/
def arguments (start : Nat) (function : String) : (rounds : Nat) → Args → Move Args
  | 0, _ => halt .endless
  | rounds + 1, args => do
    let args := Selector.addArgument args (← argument)
    if ← eat ',' then arguments start function rounds args
    else if ← eat ')' then return args
    else fault start (.openCall function)

def callArguments (start : Nat) (function : String) (rounds : Nat) : Move Args := do
  let _ ← blanks
  if ← eat ')' then return .empty else arguments start function rounds .empty

def call (registry : Registry) (rounds n : Nat) : Move Filter := do
  let start ← position
  let function := String.ofList (← take n)
  advance 1
  let args ← callArguments start function rounds
  return .function function args (← lift (registry.resolve function args))

def callSnippet (registry : Registry) (rounds : Nat) : Move (Option Filter) := do
  let n ← countWhile isIdentChar
  if n = 0 then return none
  else if (← peekAt n) = some '(' then return some (← call registry rounds n)
  else return none

def firstOf : List (Move (Option α)) → Move (Option α)
  | [] => return none
  | m :: others => do
    match ← m with
    | some a => return some a
    | none => firstOf others

def snippet (registry : Registry) (block : Move (Option Filter)) (rounds : Nat) :
    Move (Option Filter) :=
  firstOf [nameSnippet, starSnippet, indexSnippet, clauseSnippet, callSnippet registry rounds, block]

def snippets (one : Move (Option Filter)) : (rounds : Nat) → Move (List Filter)
  | 0 => halt .endless
  | rounds + 1 => do
    match ← one with
    | some f => return f :: (← snippets one rounds)
    | none => return []

/-- A stage has filters. -/
def newStage (relation : Relation) (filters : List Filter) : Move Stage :=
  if filters.isEmpty then halt .assertion else return ⟨relation, filters⟩

def newPattern (source : String) (stages : List Stage) : Move Pattern :=
  if stages.isEmpty then halt .assertion else return ⟨source, stages⟩

def separator (otherwise : Option Relation) : Move (Option Relation) := do
  if ← eatAll ['/', '/'] then return some .descendant
  else if ← eat '/' then return some .immediate
  else return otherwise

def segment (one : Move (Option Filter)) (rounds : Nat) (inBlock : Bool) (relation : Relation) :
    Move Stage := do
  if ← (do if ← startsWith ['*', '*'] then isBoundary inBlock 2 else return false) then
    advance 2
    newStage .wildcard [.any]
  else if ← (do if ← startsWith ['.'] then isBoundary inBlock 1 else return false) then
    advance 1
    newStage .current [.origin]
  else
    let filters ← snippets one rounds
    if filters.isEmpty then unexpected else newStage relation filters

def afterSegment (inBlock : Bool) : Move (Option Relation) := do
  let gap ← blanks
  if ← atClose inBlock then return none
  else match ← separator (if gap then some .descendant else none) with
    | some next => return some next
    | none => unexpected

def segments (one : Move (Option Filter)) (perSegment : Nat) (inBlock : Bool) :
    (rounds : Nat) → Relation → Move (List Stage)
  | 0, _ => halt .endless
  | rounds + 1, relation => do
    let _ ← blanks
    if ← atClose inBlock then fault (← position) .missingSegment
    else
      let stage ← segment one perSegment inBlock relation
      match ← afterSegment inBlock with
      | none => return [stage]
      | some next => return stage :: (← segments one perSegment inBlock rounds next)

def selectorWith (one : Move (Option Filter)) (rounds : Nat) (inBlock : Bool) :
    Move (List Stage) := do
  let _ ← blanks
  if ← atClose inBlock then
    if inBlock then fault (← position) .emptyBlock else error .emptySelector
  else
    let relation ← separator (some .descendant)
    segments one rounds inBlock rounds (relation.getD .descendant)

/-- A block inside `depth` others, behind its brace, which stands at `start`. -/
def block (inner : Move (List Stage)) (depth start : Nat) : Move Filter := do
  lift (Limits.checkBlockDepth (depth + 1))
  let stages ← inner
  let source ← slice (start + 1) (← position)
  if ← eat '}' then return .has (← newPattern (String.ofList (trim source)) stages)
  else fault start .openBlock

def blockSnippet (inner : Move (List Stage)) (depth : Nat) : Move (Option Filter) := do
  let start ← position
  if ← eat '\x7b' then return some (← block inner depth start) else return none

/-- A selector inside `depth` blocks. The rounds bound those of each loop, and the blocks inside each
other. -/
def selector (registry : Registry) :
    (rounds : Nat) → (depth : Nat) → (inBlock : Bool) → Move (List Stage)
  | 0, _, _ => halt .endless
  | rounds + 1, depth, inBlock =>
    let block := blockSnippet (selector registry rounds (depth + 1) true) depth
    selectorWith (snippet registry block rounds) rounds inBlock

def whole (registry : Registry) (rounds : Nat) (text : String) : Move Pattern := do
  lift (Limits.checkSelector text.toList)
  let stages ← selector registry rounds 0 false
  if ← atEnd then newPattern (trimString text) stages else halt .trailing

def compile (registry : Registry) (rounds : Nat) (text : String) : Except Halt Pattern :=
  ((whole registry rounds text).run text.toList 0).map Prod.fst

end Cursor

end GraphSelect
