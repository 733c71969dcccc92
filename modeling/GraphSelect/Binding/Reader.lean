import GraphSelect.Binding.Target
import GraphSelect.Json.Reader

/-! # Reading attribute texts as values

An attribute is a text. A reader makes data of it, which is then converted to the target. A target
that a text fits takes the attribute as it stands, so that a text is never cut out of its quotes;
the reader has been asked before, and what it refuses is refused for every target. -/
namespace GraphSelect

structure Unreadable where
  raw : String
  target : Target
  reason : Mismatch
  deriving Repr

def Unreadable.message (u : Unreadable) : String := u.reason.message

/-- Makes data of a text that is meant for a target. -/
abbrev ValueReader := (raw : String) → (target : Target) → Except Unreadable Data

namespace ValueReader

/-- Reads texts that are JSON, and takes others as they are. -/
def json : ValueReader := fun raw _ => .ok ((Json.read? raw).getD (.text raw))

def readAs (reader : ValueReader) (target : Target) (raw : String) : Except Unreadable Value := do
  let data ← reader raw target
  match target.convert (.text raw) with
  | .ok value => return value
  | .error _ => (target.convert data).mapError fun reason => ⟨raw, target, reason⟩

end ValueReader

end GraphSelect
