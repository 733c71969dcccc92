import GraphSelect.Regex.Bracket

/-! # Reading patterns

A pattern is read once from left to right. The state holds the pieces of the branch being read,
the finished branches beside it, and the same for every group that is open; flags are put back
when their group closes. Pieces carry how deep they are nested, which is limited. -/
namespace GraphSelect.Regex

open Text

/-- A piece of a pattern. Flags alone match the empty text and cannot be repeated. -/
structure Part where
  expr : Expr
  depth : Nat := 0
  repeatable : Bool := true
  deriving Repr, Inhabited

namespace Part

def concat : List Part → Part
  | [] => ⟨.empty, 0, true⟩
  | [p] => p
  | parts => ⟨parts.foldr (fun p e => .seq p.expr e) .empty,
      1 + (parts.map Part.depth).foldl max 0, true⟩

/-- One branch or another; the first branch stands apart, so there is at least one. -/
def choice (first : Part) : List Part → Part
  | [] => first
  | more => ⟨more.foldl (fun e p => .alt e p.expr) first.expr,
      1 + ((first :: more).map Part.depth).foldl max 0, true⟩

end Part

/-- What surrounds an open group: the flags, the pieces before it and the branches before them. -/
structure Frame where
  flags : Flags
  items : List Part
  branches : List Part
  deriving Repr

structure State where
  flags : Flags := {}
  /-- The pieces of the current branch, the last first. -/
  items : List Part := []
  /-- The finished branches of the current group, the last first. -/
  branches : List Part := []
  /-- The surroundings of the open groups, the innermost first. -/
  outer : List Frame := []
  /-- The names of groups so far. -/
  names : List (List Char) := []
  deriving Repr

namespace State

def push (st : State) (p : Part) : State := { st with items := p :: st.items }

def pushSet (st : State) (s : CharSet) : State := st.push ⟨.set s, 0, true⟩

/-- Everything read since the current group was opened. -/
def body (st : State) : Part :=
  let last := Part.concat st.items.reverse
  match st.branches.reverse with
  | [] => last
  | first :: more => Part.choice first (more ++ [last])

def openGroup (st : State) (flags : Flags) : State :=
  { st with flags, items := [], branches := [], outer := ⟨st.flags, st.items, st.branches⟩ :: st.outer }

def closeGroup? (st : State) : Option State :=
  match st.outer with
  | [] => none
  | frame :: outer =>
    let group : Part := ⟨st.body.expr, 1 + st.body.depth, true⟩
    some { st with flags := frame.flags, items := group :: frame.items, branches := frame.branches, outer }

def alternate (st : State) : State :=
  { st with items := [], branches := Part.concat st.items.reverse :: st.branches }

def repeat? (st : State) (lo : Nat) (hi : Option Nat) : Option State :=
  match st.items with
  | [] => none
  | p :: items =>
    if p.repeatable then
      some { st with items := ⟨.times lo hi p.expr, 1 + p.depth, true⟩ :: items }
    else none

end State

/-- The value of digits, below 2^32. -/
def count? (digits : List Char) : Option Nat :=
  let n := digits.foldl (fun n c => 10 * n + (c.toNat - '0'.toNat)) 0
  if digits.isEmpty || 0x100000000 ≤ n then none else some n

def repeatCount (f : Flags) : Read (Option Nat) := do
  let _ ← Scan.takeWhile isBlank
  let ds ← spacedRun f Char.isDigit
  let _ ← Scan.takeWhile isBlank
  space f
  if ds.isEmpty then return none
  return some (← give (count? ds))

def repeatBounds (f : Flags) : Read (Nat × Option Nat) := do
  space f
  let lo ← give (← repeatCount f)
  if ← Scan.eat ',' then
    space f
    if ← Scan.eat '}' then return (lo, none)
    let hi ← give (← repeatCount f)
    if (← take) ≠ '}' || hi < lo then Scan.fail ()
    return (lo, some hi)
  else
    if (← take) ≠ '}' then Scan.fail ()
    return (lo, some lo)

def isNameStart (c : Char) : Bool := c = '_' || CharSet.alphabetic.contains c

def isNameChar (c : Char) : Bool :=
  c = '_' || c = '.' || c = '[' || c = ']' || CharSet.alphanumeric.contains c

/-- Whether a group may have a name. -/
def isGroupName : List Char → Bool
  | [] => false
  | c :: s => isNameStart c && s.all isNameChar

def namedGroup (st : State) : Read State := do
  let name ← Scan.takeWhile (· ≠ '>')
  let _ ← take
  if !isGroupName name || st.names.contains name then Scan.fail ()
  return { st with names := name :: st.names }.openGroup st.flags

/-- Flags that hold from here on, or a group with flags. -/
def flagGroup (st : State) : Read State := do
  let letters ← Scan.takeWhile fun c => c ≠ ':' && c ≠ ')'
  let stop ← take
  let flags ← give (st.flags.change? letters)
  if stop = ':' then return st.openGroup flags
  if letters.isEmpty then Scan.fail ()
  return { st with flags }.push ⟨.empty, 0, false⟩

/-- What stands behind an opening parenthesis. Looking around is not part of the language. -/
def group (st : State) : Read State := do
  space st.flags
  let s ← Scan.ahead
  if [['?', '='], ['?', '!'], ['?', '<', '='], ['?', '<', '!']].any (·.isPrefixOf s) then
    Scan.fail ()
  if ← Scan.eatAll ['?', 'P', '<'] then namedGroup st
  else if ← Scan.eatAll ['?', '<'] then namedGroup st
  else if ← Scan.eat '?' then flagGroup st
  else return st.openGroup st.flags

/-- A repetition of the last piece; a question mark behind it only changes which match is
preferred. -/
def repeated (st : State) (lo : Nat) (hi : Option Nat) : Read State := do
  let st ← give (st.repeat? lo hi)
  let _ ← Scan.eat '?'
  return st

def dot? (f : Flags) : Option CharSet :=
  if !f.unicode then none
  else if f.dotAll then some .full
  else if f.crlf then some (.compl (.union (.single '\n') (.single '\r')))
  else some (.compl (.single '\n'))

def lineStart (f : Flags) : Look :=
  if !f.multiLine then .textStart else if f.crlf then .crlfStart else .lineStart

def lineEnd (f : Flags) : Look :=
  if !f.multiLine then .textEnd else if f.crlf then .crlfEnd else .lineEnd

def State.pushPrimitive? (st : State) : Primitive → Option State
  | .literal c byte => (st.flags.literal? c byte).map st.pushSet
  | .set s => some (st.pushSet s)
  | .look l => some (st.push ⟨.look l, 0, true⟩)

def step (st : State) (c : Char) : Read State :=
  match c with
  | '(' => group st
  | ')' => give st.closeGroup?
  | '|' => pure st.alternate
  | '[' => do
    let p ← bracketed st.flags
    return st.push ⟨.set p.set, p.depth, true⟩
  | '?' => repeated st 0 (some 1)
  | '*' => repeated st 0 none
  | '+' => repeated st 1 none
  | '\x7b' => do
    let (lo, hi) ← repeatBounds st.flags
    space st.flags
    repeated st lo hi
  | '\\' => do give (st.pushPrimitive? (← escape st.flags))
  | '.' => do return st.pushSet (← give (dot? st.flags))
  | '^' => pure (st.push ⟨.look (lineStart st.flags), 0, true⟩)
  | '$' => pure (st.push ⟨.look (lineEnd st.flags), 0, true⟩)
  | c => give (st.pushPrimitive? (.literal c false))

def readAll (st : State) (s : List Char) : Option State :=
  match e : st.flags.dropSpace s with
  | [] => some st
  | c :: rest =>
    match step st c rest with
    | .error () => none
    | .ok (st', r) =>
      have hs : r.1.length < s.length := by
        have h₁ := st.flags.length_dropSpace_le s
        have h₂ := r.2
        rw [e] at h₁
        simp only [List.length_cons] at h₁
        omega
      readAll st' r.1
termination_by s.length

def maxDepth : Nat := 250

/-- The expression that a pattern denotes, if it is one. -/
def read? (pattern : List Char) : Option Expr := do
  let st ← readAll {} pattern
  let whole := st.body
  if st.outer.isEmpty && whole.depth ≤ maxDepth && whole.expr.cost ≤ Expr.maxCost then whole.expr
  else none

end GraphSelect.Regex
