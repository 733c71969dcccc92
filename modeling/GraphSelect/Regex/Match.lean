import GraphSelect.Regex.Expr

/-! # Matching

The places of a text are numbered from its start, and a set of places is a number whose bits are
the places. An expression maps the places where a match may begin to the places where it may end,
so matching takes a number of steps bounded by the expression and the length of the text. -/
namespace GraphSelect.Regex

/-- The places of a text whose neighboring characters satisfy a condition; `before` stands in
front of the text. -/
def places (p : Option Char → Option Char → Bool) (before : Option Char) : List Char → Nat
  | [] => (p before none).toNat
  | c :: s => (p before (some c)).toNat + 2 * places p (some c) s

/-- Applies a step a number of times. Nothing comes of no places. -/
def repeatStep (step : Nat → Nat) : Nat → Nat → Nat
  | 0, starts => starts
  | n + 1, starts => if starts = 0 then 0 else repeatStep step n (step starts)

/-- Adds what a step leads to, a number of times or until nothing is new. -/
def spread (step : Nat → Nat) : Nat → Nat → Nat
  | 0, starts => starts
  | n + 1, starts =>
    let more := starts ||| step starts
    if more = starts then starts else spread step n more

namespace Expr

/-- The places where a match that begins in one of `starts` may end. -/
def ends (text : List Char) : Expr → (starts : Nat) → Nat
  | empty, starts => starts
  | set s, starts => (starts &&& places (fun _ behind => behind.any s.contains) none text) <<< 1
  | look l, starts => starts &&& places l.holds none text
  | seq a b, starts => b.ends text (a.ends text starts)
  | alt a b, starts => a.ends text starts ||| b.ends text starts
  | many lo hi e, starts =>
    let base := repeatStep (e.ends text) lo starts
    spread (e.ends text) (hi.elim (text.length + 1) (· - lo)) base

/-- Whether the expression matches some part of a text. -/
def occursIn (e : Expr) (text : List Char) : Bool :=
  e.ends text (Nat.pow 2 (text.length + 1) - 1) ≠ 0

end Expr

end GraphSelect.Regex
