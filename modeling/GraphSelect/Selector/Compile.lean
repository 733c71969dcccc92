import GraphSelect.Limits
import GraphSelect.Selector.Builtin
import GraphSelect.Selector.Snippet

/-! # Compiling selectors

A selector is a row of segments. A slash between two segments leads to the neighbors, two slashes
or blanks lead to everything that can be reached; a segment of one dot stays where it is, and one
of two stars takes the node and everything that can be reached. Blocks hold selectors and are
nested up to a limit, so the reader of selectors is defined by recursion on the levels that are
still allowed. -/
namespace GraphSelect.Selector

open Text

/-- Whether the text ahead ends the selector: the end of the text or, in a block, its brace. -/
def closes (inBlock : Bool) : List Char → Bool
  | [] => true
  | c :: _ => inBlock && c = '}'

/-- Whether the text ahead ends a segment. -/
def isBoundary (inBlock : Bool) : List Char → Bool
  | [] => true
  | c :: _ => isBlank c || c = '/' || (inBlock && c = '}')

def separator (otherwise : Option Relation) : Read (Option Relation) := do
  if ← Scan.eatAll ['/', '/'] then return some .descendant
  else if ← Scan.eat '/' then return some .immediate
  else return otherwise

/-- A segment; its first character has been taken, and goes on with `rest`. -/
def segment (registry : Registry) (block : List Char → Read Filter) (inBlock : Bool)
    (relation : Relation) (c : Char) : Read Stage := do
  let rest ← Scan.ahead
  if c = '*' && rest.head? = some '*' && isBoundary inBlock rest.tail then
    Scan.drop 1
    return ⟨.wildcard, [.any]⟩
  else if c = '.' && isBoundary inBlock rest then
    return ⟨.current, [.origin]⟩
  else match snippet? registry block c rest with
    | none => Scan.fail (.fault (c :: rest) (.unexpected c))
    | some first => do
      let f ← first
      return ⟨relation, f :: (← snippets registry block)⟩

/-- What follows a segment: the end of the selector, or the relation to the next segment. -/
def afterSegment (inBlock : Bool) : Read (Option Relation) := do
  let s ← Scan.ahead
  blanks
  let t ← Scan.ahead
  if closes inBlock t then return none
  match ← separator (if t.length < s.length then some .descendant else none) with
  | some relation => return some relation
  | none => match t with
    | c :: _ => failHere (.unexpected c)
    | [] => return none

/-- The segments of a selector from one on that is reached by `relation`. -/
def segments (registry : Registry) (block : List Char → Read Filter) (inBlock : Bool)
    (relation : Relation) : Read (List Stage) := fun s =>
  match e : skipBlanks s with
  | [] => .error (.fault [] .missingSegment)
  | c :: rest =>
    have hs : rest.length < s.length := by
      have := length_skipBlanks_le s
      rw [e] at this
      exact this
    if closes inBlock (c :: rest) then .error (.fault (c :: rest) .missingSegment)
    else
      match segment registry block inBlock relation c rest with
      | .error e => .error e
      | .ok (stage, r) =>
        match afterSegment inBlock r.1 with
        | .error e => .error e
        | .ok (none, t) => .ok ([stage], ⟨t.1, by have := r.2; have := t.2; omega⟩)
        | .ok (some next, t) =>
          have ht : t.1.length < s.length := by have := r.2; have := t.2; omega
          match segments registry block inBlock next t.1 with
          | .error e => .error e
          | .ok (stages, u) => .ok (stage :: stages, ⟨u.1, by have := u.2; omega⟩)
termination_by s => s.length

/-- A selector with a given reader of blocks. -/
def selectorWith (registry : Registry) (block : List Char → Read Filter) (inBlock : Bool) :
    Read (List Stage) := do
  blanks
  let s ← Scan.ahead
  if closes inBlock s then
    if inBlock then failHere .emptyBlock else lift (.error .emptySelector)
  let relation ← separator (some .descendant)
  segments registry block inBlock (relation.getD .descendant)

/-- A block, behind its brace; `start` is the text from the brace on. -/
def blockOf (inner : Read (List Stage)) (start : List Char) : Read Filter := do
  let s ← Scan.ahead
  let stages ← inner
  let t ← Scan.ahead
  if ← Scan.eat '}' then
    return .has ⟨String.ofList (trim (s.take (s.length - t.length))), stages⟩
  else Scan.fail (.fault start .openBlock)

/-- A block where no further one is allowed. -/
def blockTooDeep (_start : List Char) : Read Filter :=
  lift (.error (.nestingTooDeep (Limits.maxBlockDepth + 1) Limits.maxBlockDepth))

/-- A selector in which blocks may be nested up to `levels` deep. -/
def selector (registry : Registry) : (levels : Nat) → (inBlock : Bool) → Read (List Stage)
  | 0, inBlock => selectorWith registry blockTooDeep inBlock
  | levels + 1, inBlock =>
    selectorWith registry (blockOf (selector registry levels true)) inBlock

end Selector

namespace Registry

def compile (registry : Registry) (text : String) : Except Error Pattern := do
  let s := text.toList
  Limits.checkSelector s
  match (Selector.selector registry Limits.maxBlockDepth false).run s with
  | .ok (stages, _) => return ⟨Text.trimString text, stages⟩
  | .error stop => throw (stop.toError s)

end Registry

end GraphSelect
