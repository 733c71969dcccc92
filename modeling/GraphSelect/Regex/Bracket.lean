import GraphSelect.Regex.Primitive

/-! # Bracketed classes

A class in brackets unites characters, ranges, escapes, named classes and inner brackets; the
operators for intersection, difference and symmetric difference join such unions from the left.
The brackets that are open are kept as a list of frames, so reading goes once over the text. -/
namespace GraphSelect.Regex

open Text

/-- A set and how deep its brackets, unions and operators are nested. -/
structure SetPart where
  set : CharSet
  depth : Nat := 0
  deriving Repr

inductive SetOp | inter | diff | symmDiff
  deriving DecidableEq, Repr

def SetOp.apply : SetOp → CharSet → CharSet → CharSet
  | inter => .inter
  | diff => .diff
  | symmDiff => .symmDiff

structure Bracket where
  negated : Bool
  /-- What stands before the last operator, with that operator. -/
  pending : Option (SetOp × SetPart) := none
  /-- The items behind the last operator, the last first. -/
  items : List SetPart
  deriving Repr

namespace Bracket

def push (b : Bracket) (p : SetPart) : Bracket := { b with items := p :: b.items }

/-- The union of the items behind the last operator. -/
def union (b : Bracket) : SetPart :=
  match b.items with
  | [] => ⟨.empty, 0⟩
  | [p] => p
  | items => ⟨.unionAll (items.reverse.map SetPart.set), 1 + (items.map SetPart.depth).foldl max 0⟩

/-- Everything up to here as one set. Where case is ignored, the operands are folded first. -/
def join (f : Flags) (b : Bracket) : SetPart :=
  match b.pending with
  | none => b.union
  | some (op, left) =>
    let fold (s : CharSet) : CharSet :=
      if !f.ignoreCase then s else if f.unicode then .foldCase s else .foldAscii s
    ⟨op.apply (fold left.set) (fold b.union.set), 1 + max left.depth b.union.depth⟩

def operator (f : Flags) (b : Bracket) (op : SetOp) : Bracket :=
  { b with pending := some (op, b.join f), items := [] }

def close? (f : Flags) (b : Bracket) : Option SetPart :=
  (f.adjust? b.negated (b.join f).set).map (⟨·, 1 + (b.join f).depth⟩)

end Bracket

/-- The first character that is no blank, past one `#`. -/
def firstInk : (inComment : Bool) → List Char → Option Char
  | _, [] => none
  | inComment, c :: s =>
    if isBlank c then firstInk inComment s
    else if !inComment && c = '#' then firstInk true s
    else some c

/-- The character that follows a hyphen, for telling a range from a hyphen of its own. -/
def behindHyphen (f : Flags) (s : List Char) : Option Char :=
  if f.verbose then firstInk false s else s.head?

def bracketItem (f : Flags) (c : Char) : Read Primitive :=
  if c = '\\' then escape f else pure (.literal c false)

def bracketChar? (f : Flags) : Primitive → Option Char
  | .literal c _ => if f.unicode || c.toNat < 128 then some c else none
  | _ => none

def bracketSet? (f : Flags) : Primitive → Option CharSet
  | .set s => some s
  | .look _ => none
  | p => (bracketChar? f p).map .single

/-- An item or a range inside brackets; its first character has been taken. -/
def bracketRange (f : Flags) (c : Char) : Read SetPart := do
  let first ← bracketItem f c
  space f
  match ← Scan.ahead with
  | [] => Scan.fail ()
  | d :: rest =>
    if d ≠ '-' || behindHyphen f rest = some ']' || behindHyphen f rest = some '-' then
      return ⟨← give (bracketSet? f first), 0⟩
    else
      Scan.drop 1
      space f
      let last ← bracketItem f (← take)
      let a ← give (bracketChar? f first)
      let b ← give (bracketChar? f last)
      if b < a then Scan.fail ()
      return ⟨.range a b, 0⟩

/-- The start of a bracket, behind its opening. Hyphens that come first stand for themselves, and so
does a closing bracket. -/
def openBracket (f : Flags) : Read Bracket := do
  space f
  let negated ← Scan.eat '^'
  if negated then space f
  let hyphens ← spacedRun f (· = '-')
  if !hyphens.isEmpty then return { negated, items := hyphens.map fun c => ⟨.single c, 0⟩ }
  else if ← Scan.eat ']' then
    space f
    return { negated, items := [⟨.single ']', 0⟩] }
  else return { negated, items := [] }

/-- A named class such as `[:alpha:]`, behind its first bracket, if one stands there: whether it is
negated, its set, and the number of its characters. -/
def namedClass? : List Char → Option (Bool × CharSet × Nat)
  | ':' :: s =>
    let negated := s.head? = some '^'
    let body := if negated then s.tail else s
    let name := body.takeWhile (· ≠ ':')
    if [':', ']'].isPrefixOf (body.drop name.length) then
      (CharSet.named.lookup (String.ofList name)).map fun set =>
        (negated, set, name.length + if negated then 4 else 3)
    else none
  | _ => none

def namedClass : Read (Option (Bool × CharSet)) := do
  match namedClass? (← Scan.ahead) with
  | some (negated, set, size) =>
    Scan.drop size
    return some (negated, set)
  | none => return none

/-- Reads one item of the innermost bracket, whose first character has been taken, or opens,
joins or closes brackets. Closing the outermost one gives the class. -/
def bracketStep (f : Flags) (b : Bracket) (outer : List Bracket) (c : Char) :
    Read (Bracket × List Bracket ⊕ SetPart) := do
  let operator (op : SetOp) : Read (Bracket × List Bracket ⊕ SetPart) := do
    Scan.drop 1
    return .inl (b.operator f op, outer)
  let doubled := (← Scan.peek) = some c
  if c = '[' then
    match ← namedClass with
    | some (negated, set) => return .inl (b.push ⟨← give (f.adjust? negated set), 0⟩, outer)
    | none => return .inl (← openBracket f, b :: outer)
  else if c = ']' then
    let closed ← give (b.close? f)
    match outer with
    | [] => return .inr closed
    | o :: outer => return .inl (o.push closed, outer)
  else if c = '&' && doubled then operator .inter
  else if c = '-' && doubled then operator .diff
  else if c = '~' && doubled then operator .symmDiff
  else return .inl (b.push (← bracketRange f c), outer)

def bracketLoop (f : Flags) (b : Bracket) (outer : List Bracket) : Read SetPart := fun s =>
  match e : f.dropSpace s with
  | [] => .error ()
  | c :: rest =>
    have hs : rest.length < s.length := by
      have := f.length_dropSpace_le s
      rw [e] at this
      exact this
    match bracketStep f b outer c rest with
    | .error () => .error ()
    | .ok (.inr p, r) => .ok (p, ⟨r.1, by have := r.2; omega⟩)
    | .ok (.inl (b, outer), r) =>
      have := r.2
      match bracketLoop f b outer r.1 with
      | .error () => .error ()
      | .ok (p, r) => .ok (p, ⟨r.1, by have := r.2; omega⟩)
termination_by s => s.length

def bracketed (f : Flags) : Read SetPart := do
  let b ← openBracket f
  bracketLoop f b []

end GraphSelect.Regex
