/-! # Flags of a pattern

A flag holds from where it is set to the end of the group around it. Flags are given by letters;
those behind a hyphen are taken away. -/
namespace GraphSelect.Regex

structure Flags where
  ignoreCase : Bool := false
  multiLine : Bool := false
  /-- Whether a dot stands for a line feed too. -/
  dotAll : Bool := false
  unicode : Bool := true
  crlf : Bool := false
  /-- Whether blanks and comments in the pattern are passed over. -/
  verbose : Bool := false
  deriving DecidableEq, Repr

namespace Flags

/-- Sets the flag of a letter. Letter `U` swaps which of several matches is preferred, which makes
no difference to whether there is one. -/
def set (f : Flags) (value : Bool) : Char → Flags
  | 'i' => { f with ignoreCase := value }
  | 'm' => { f with multiLine := value }
  | 's' => { f with dotAll := value }
  | 'u' => { f with unicode := value }
  | 'R' => { f with crlf := value }
  | 'x' => { f with verbose := value }
  | _ => f

/-- Whether letters are flags, none twice, with at most one hyphen, which is not the last. -/
def wellFormed (letters : List Char) : Bool :=
  letters.all ['i', 'm', 's', 'U', 'u', 'R', 'x', '-'].contains &&
    letters.eraseDups.length = letters.length && letters.getLast? ≠ some '-'

def change? (f : Flags) (letters : List Char) : Option Flags :=
  if wellFormed letters then
    let on := (letters.takeWhile (· ≠ '-')).foldl (fun f c => f.set true c) f
    some ((letters.dropWhile (· ≠ '-')).foldl (fun f c => f.set false c) on)
  else none

end Flags

end GraphSelect.Regex
