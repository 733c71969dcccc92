import GraphSelect.Regex.Property

/-! # Regular expressions

The expressions that patterns denote, and the conditions on a place between two characters. A
piece of text matches between two places; `Expr.times` keeps repetitions of what matches only the
empty text small, since repeating it adds nothing. -/
namespace GraphSelect.Regex

inductive WordEdge | boundary | inside | start | finish | startHalf | finishHalf
  deriving DecidableEq, Repr

inductive Look
  | textStart | textEnd
  | lineStart | lineEnd
  /-- Line ends where a carriage return and a line feed count as one. -/
  | crlfStart | crlfEnd
  | word (unicode : Bool) (edge : WordEdge)
  deriving DecidableEq, Repr

/-- Whether a condition on word characters holds, from what stands before and behind. -/
def WordEdge.holds : WordEdge → (before behind : Bool) → Bool
  | boundary, a, b => a != b
  | inside, a, b => a == b
  | start, a, b => !a && b
  | finish, a, b => a && !b
  | startHalf, a, _ => !a
  | finishHalf, _, b => !b

/-- Whether a condition holds between two neighboring characters; none stands at an end. -/
def Look.holds : Look → Option Char → Option Char → Bool
  | textStart, before, _ => before.isNone
  | textEnd, _, behind => behind.isNone
  | lineStart, before, _ => before.all (· = '\n')
  | lineEnd, _, behind => behind.all (· = '\n')
  | crlfStart, before, behind =>
    before.all (· = '\n') || (before = some '\r' && behind ≠ some '\n')
  | crlfEnd, before, behind =>
    behind.all (· = '\r') || (behind = some '\n' && before ≠ some '\r')
  | word unicode edge, before, behind =>
    let letters := if unicode then CharSet.unicodeWord else CharSet.asciiWord
    edge.holds (before.any letters.contains) (behind.any letters.contains)

inductive Expr
  | empty
  /-- One character of a set. -/
  | set (s : CharSet)
  | look (l : Look)
  | seq (a b : Expr)
  | alt (a b : Expr)
  /-- At least `lo` and at most `hi` times, or without a bound above. -/
  | many (lo : Nat) (hi : Option Nat) (e : Expr)
  deriving Repr, Inhabited

namespace Expr

/-- Whether only the empty text can match. -/
def isZeroWidth : Expr → Bool
  | empty | look _ => true
  | set _ => false
  | seq a b | alt a b => a.isZeroWidth && b.isZeroWidth
  | many _ hi e => hi = some 0 || e.isZeroWidth

/-- A repetition, at most once where more would add nothing. -/
def times (lo : Nat) (hi : Option Nat) (e : Expr) : Expr :=
  if e.isZeroWidth then many (min lo 1) (some (min (hi.getD 1) 1)) e else many lo hi e

def setCost (s : CharSet) : Nat :=
  let edges := s.edges.length
  let ranges := (edges + 1) / 2
  if s.isAscii then 64 + 8 * ranges
  else 64 + 62 * ranges + if edges % 2 = 1 then 812 else 0

def cost : Expr → Nat
  | empty | look _ => 32
  | set (.single c) => 32 * c.utf8Size
  | set s => setCost s
  | seq a b => a.cost + b.cost
  | alt a b => a.cost + b.cost + 72
  | many lo none e => max lo 1 * e.cost + 40
  | many lo (some hi) e => hi * e.cost + (hi - lo) * 40 + 32

def maxCost : Nat := 10 * 0x100000

end Expr

end GraphSelect.Regex
