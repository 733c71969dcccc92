import GraphSelect.Unicode.Ranges
import GraphSelect.Unicode.Casing

/-! # Case classes of characters

The classes of `caseClasses`, arranged for looking up a single character. -/
namespace GraphSelect.Unicode

/-- Each character that has a partner in case, with its class, in ascending order. -/
def caseTable : Array (Nat × List Char) :=
  let rows := (words caseClasses).flatMap fun text =>
    let members := (text.splitOn "/").map readHex
    members.map fun n => (n, members.map Char.ofNat)
  (rows.mergeSort fun a b => a.1 ≤ b.1).toArray

def searchCase (table : Array (Nat × List Char)) (x lo hi : Nat) : List Char :=
  if lo < hi then
    let middle := (lo + hi) / 2
    let (key, members) := table[middle]?.getD (0, [])
    if x < key then searchCase table x lo middle
    else if key < x then searchCase table x (middle + 1) hi
    else members
  else []
termination_by hi - lo

/-- The characters that differ from `c` in case only, `c` among them. -/
def caseClass (c : Char) : List Char :=
  match searchCase caseTable c.toNat 0 caseTable.size with
  | [] => [c]
  | members => members

end GraphSelect.Unicode
