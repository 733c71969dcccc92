/-! # Formats of documents

The format of a file follows from the extension of its name, in either case of letters. -/
namespace GraphSelect

inductive Format | json | toml
  deriving DecidableEq, Repr, Inhabited

namespace Format

/-- The last name of a path; slashes and single dots at the end do not count, and a path to a
parent has none. -/
def fileName? (path : String) : Option String :=
  match ((path.splitOn "/").filter fun part => part ≠ "" && part ≠ ".").getLast? with
  | some ".." => none
  | last => last

/-- What stands behind the last dot of a file name, unless that dot is its first character. -/
def extension? (fileName : String) : Option String :=
  let cs := fileName.toList.reverse
  match cs.dropWhile (· ≠ '.') with
  | _ :: _ :: _ => some (String.ofList (cs.takeWhile (· ≠ '.')).reverse)
  | _ => none

def ofPath? (path : String) : Option Format := do
  match (← extension? (← fileName? path)).map Char.toLower with
  | "json" => some json
  | "toml" => some toml
  | _ => none

end Format

end GraphSelect
