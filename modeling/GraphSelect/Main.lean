import GraphSelect.CommandLine.Run

/-! # The program

Reads what a command needs, runs it, writes the configuration file where the command says so, and
shows the outcome. -/
namespace GraphSelect.CommandLine

def configVariable : String := "GRAPHSELECT_CONFIG"

/-- Where the configuration file is: where the environment says, or else below the home
directory. -/
def findConfigPath : IO String := do
  if let some path ← IO.getEnv configVariable then return path
  let home := (← IO.getEnv "HOME").getD "."
  return home ++ "/.graphselect/config.toml"

def readFile? (path : String) : IO (Option String) :=
  try return some (← IO.FS.readFile path) catch _ => return none

/-- Writes a file together with the directories above it. -/
def writeFile (path text : String) : IO Unit := do
  match (path.splitOn "/").dropLast with
  | [] | [""] => pure ()
  | above => IO.FS.createDirAll (String.intercalate "/" above)
  IO.FS.writeFile path text

def usage : String :=
  "Usage: graphselect [-f FORMAT] [-v] [-q] COMMAND\n\n" ++
  "  query SELECTOR -i FILE [--dfs] [-l COUNT]\n" ++
  "  explain SELECTOR\n" ++
  "  sort -i FILE\n" ++
  "  functions\n" ++
  "  config get NAME | set NAME VALUE | list | path | init [--force]\n"

def execute (arguments : List String) : IO UInt32 := do
  match Invocation.ofArguments? arguments with
  | none =>
    IO.eprint usage
    return Outcome.misuse.exitCode.toUInt32
  | some i =>
    let configPath ← findConfigPath
    let config ← readFile? configPath
    let document ← match i.input? with
      | some path => readFile? path
      | none => pure none
    let outcome := Outcome.ofResult (i.run { configPath, config, document })
    if let some text := outcome.config then writeFile configPath text
    IO.print outcome.output
    IO.eprint outcome.errors
    return outcome.exitCode.toUInt32

end GraphSelect.CommandLine

def main (arguments : List String) : IO UInt32 := do
  try GraphSelect.CommandLine.execute arguments
  catch e =>
    IO.eprintln s!"Error: {e}"
    return 1
