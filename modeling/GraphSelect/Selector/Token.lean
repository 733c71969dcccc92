import GraphSelect.Error
import GraphSelect.Text.Blank
import GraphSelect.Text.Scan

/-! # The small pieces of a selector

Identifiers, quoted texts and the ways in which reading a selector stops. A stop that is a fault
of the text keeps what was still ahead, from which its position follows once the whole text is
known. -/
namespace GraphSelect.Selector

open Text

/-- Why reading a selector stopped. -/
inductive Stop
  /-- The text breaks the grammar where `ahead` begins. -/
  | fault (ahead : List Char) (what : SelectorFault)
  | error (e : Error)
  deriving Repr

/-- The error that a stop amounts to in a whole text. -/
def Stop.toError (text : List Char) : Stop → Error
  | fault ahead what => .malformed (byteLength text - byteLength ahead) what
  | error e => e

/-- Readers of selectors. -/
abbrev Read := Scan Stop

def failHere {α : Type} (what : SelectorFault) : Read α := Scan.failAt (.fault · what)

/-- Passes on an error that is not about the text here. -/
def lift {α : Type} : Except Error α → Read α
  | .ok a => pure a
  | .error e => Scan.fail (.error e)

def blanks : Read Unit := do let _ ← Scan.takeWhile isBlank

def isIdentChar (c : Char) : Bool :=
  c.isAlphanum || c = '_' || c = '-' || c = ':' || c = '.'

def isQuote (c : Char) : Bool := c = '\'' || c = '"'

/-- The text up to the closing quote, and what follows it. A backslash takes the meaning from the
quote behind it; elsewhere it stands for itself. -/
def unquote (quote : Char) : List Char → Option (List Char × List Char)
  | [] => none
  | [c] => if c = quote then some ([], []) else none
  | c :: d :: s =>
    if c = quote then some ([], d :: s)
    else if c = '\\' && d = quote then (unquote quote s).map fun (t, r) => (quote :: t, r)
    else (unquote quote (d :: s)).map fun (t, r) => (c :: t, r)

theorem length_of_unquote {quote : Char} {s t r : List Char} (h : unquote quote s = some (t, r)) :
    r.length < s.length := by
  fun_induction unquote quote s generalizing t with
  | case1 => simp at h
  | case2 => simp_all
  | case3 => simp at h
  | case4 => simp_all
  | case5 c d s _ _ ih =>
    simp only [Option.map_eq_some_iff, Prod.mk.injEq] at h
    obtain ⟨p, hp, _, rfl⟩ := h
    have := ih hp
    simp only [List.length_cons]
    omega
  | case6 c d s _ _ ih =>
    simp only [Option.map_eq_some_iff, Prod.mk.injEq] at h
    obtain ⟨p, hp, _, rfl⟩ := h
    have := ih hp
    simp only [List.length_cons] at this ⊢
    omega

/-- A quoted text whose opening quote has been taken; `start` is the text from that quote on. -/
def quoted (quote : Char) (start : List Char) : Read String := fun s =>
  match h : unquote quote s with
  | some (text, rest) => .ok (String.ofList text, ⟨rest, Nat.le_of_lt (length_of_unquote h)⟩)
  | none => .error (.fault start .openQuote)

/-- A quoted text, if a quote stands ahead. -/
def quoted? : Read (Option String) := do
  match ← Scan.ahead with
  | c :: s =>
    if isQuote c then
      Scan.drop 1
      return some (← quoted c (c :: s))
    else return none
  | [] => return none

end GraphSelect.Selector
