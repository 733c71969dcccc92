import GraphSelect.Unicode.CaseClass

/-! # Sets of characters in patterns

A set is kept as the expression that built it; membership follows the expression. Folding a set
adds every character that differs from a member in case only. -/
namespace GraphSelect.Regex

open Unicode (Ranges)

inductive CharSet
  | empty
  | full
  | single (c : Char)
  | range (first last : Char)
  | table (ranges : Ranges)
  | union (a b : CharSet)
  | inter (a b : CharSet)
  | diff (a b : CharSet)
  | symmDiff (a b : CharSet)
  | compl (a : CharSet)
  /-- The set with the case partners of its members. -/
  | foldCase (a : CharSet)
  /-- The set with the case partners of its ASCII letters. -/
  | foldAscii (a : CharSet)
  deriving Repr, Inhabited

namespace CharSet

def contains : CharSet → Char → Bool
  | empty, _ => false
  | full, _ => true
  | single d, c => c = d
  | range first last, c => first ≤ c && c ≤ last
  | table ranges, c => ranges.contains c
  | union a b, c => a.contains c || b.contains c
  | inter a b, c => a.contains c && b.contains c
  | diff a b, c => a.contains c && !b.contains c
  | symmDiff a b, c => a.contains c != b.contains c
  | compl a, c => !a.contains c
  | foldCase a, c => (Unicode.caseClass c).any a.contains
  | foldAscii a, c => a.contains c || a.contains c.toLower || a.contains c.toUpper

def unionAll (sets : List CharSet) : CharSet := sets.foldr union empty

/-- Puts a code point in front of edges if membership changes there. -/
def addEdge (before after : Bool) (x : Nat) (edges : List Nat) : List Nat :=
  if before = after then edges else x :: edges

/-- Joins two sets given by their edges: the code points, in ascending order, at which membership
changes. What is known of each set before its next edge is carried along. -/
def joinEdges (op : Bool → Bool → Bool) (inA inB : Bool) : List Nat → List Nat → List Nat
  | [], [] => []
  | a :: as, [] => addEdge (op inA inB) (op (!inA) inB) a (joinEdges op (!inA) inB as [])
  | [], b :: bs => addEdge (op inA inB) (op inA (!inB)) b (joinEdges op inA (!inB) [] bs)
  | a :: as, b :: bs =>
    if a < b then
      addEdge (op inA inB) (op (!inA) inB) a (joinEdges op (!inA) inB as (b :: bs))
    else if b < a then
      addEdge (op inA inB) (op inA (!inB)) b (joinEdges op inA (!inB) (a :: as) bs)
    else addEdge (op inA inB) (op (!inA) (!inB)) a (joinEdges op (!inA) (!inB) as bs)
termination_by as bs => as.length + bs.length

def edges : CharSet → List Nat
  | empty => []
  | full => [0]
  | single c => [c.toNat, c.toNat + 1]
  | range first last => [first.toNat, last.toNat + 1]
  | table ranges => ranges.bounds.toList.flatMap fun (first, last) => [first, last + 1]
  | union a b => joinEdges or false false a.edges b.edges
  | inter a b => joinEdges and false false a.edges b.edges
  | diff a b => joinEdges (fun x y => x && !y) false false a.edges b.edges
  | symmDiff a b => joinEdges xor false false a.edges b.edges
  | compl a => joinEdges xor false false [0] a.edges
  | foldCase a | foldAscii a => a.edges

/-- Whether the set holds no character beyond ASCII, as far as its expression shows. -/
def isAscii : CharSet → Bool
  | empty => true
  | full => false
  | single c => c.toNat < 128
  | range _ last => last.toNat < 128
  | table _ | compl _ | foldCase _ => false
  | union a b | symmDiff a b => a.isAscii && b.isAscii
  | inter a b => a.isAscii || b.isAscii
  | diff a _ | foldAscii a => a.isAscii

def lower : CharSet := range 'a' 'z'

def upper : CharSet := range 'A' 'Z'

def digit : CharSet := range '0' '9'

def letter : CharSet := union lower upper

def asciiWord : CharSet := unionAll [letter, digit, single '_']

def asciiSpace : CharSet := union (range '\t' '\r') (single ' ')

def punctuation : CharSet := unionAll [range '!' '/', range ':' '@', range '[' '\x60', range '\x7b' '~']

def named : List (String × CharSet) := [
  ("alnum", union letter digit), ("alpha", letter), ("ascii", range '\x00' '\x7f'),
  ("blank", union (single '\t') (single ' ')), ("cntrl", union (range '\x00' '\x1f') (single '\x7f')),
  ("digit", digit), ("graph", range '!' '~'), ("lower", lower), ("print", range ' ' '~'),
  ("punct", punctuation), ("space", asciiSpace), ("upper", upper), ("word", asciiWord),
  ("xdigit", unionAll [digit, range 'a' 'f', range 'A' 'F'])]

end CharSet

end GraphSelect.Regex
