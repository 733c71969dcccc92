import GraphSelect.Error

/-! # Limits

Selectors are limited in length and in how deep their blocks are nested; the nodes that one walk
visits are limited by a setting, whose default stands here. -/
namespace GraphSelect.Limits

open Text (byteLength)

def maxSelectorLength : Nat := 4096

def maxBlockDepth : Nat := 16

/-- How many nodes a walk visits where nothing else is set. -/
def maxTraversalNodes : Nat := 100000

def checkSelector (selector : List Char) : Except Error Unit :=
  if byteLength selector ≤ maxSelectorLength then .ok ()
  else .error (.selectorTooLong (byteLength selector) maxSelectorLength)

def checkBlockDepth (depth : Nat) : Except Error Unit :=
  if depth ≤ maxBlockDepth then .ok () else .error (.nestingTooDeep depth maxBlockDepth)

end GraphSelect.Limits
