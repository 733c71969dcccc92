/-! # Levels of the command line

A command line names a command, and the name of a command may be followed by the name of a command
inside it. What may stand behind the names read so far is fixed by the level that they lead to: the
options of the level, and either the names of further levels or a number of words. -/
namespace GraphSelect.CommandLine

inductive OptionShape
  /-- Nothing; given once at most. -/
  | single
  /-- Nothing; given as often as one likes. -/
  | counted
  /-- A value; given once at most. -/
  | valued
  deriving DecidableEq, Repr

inductive OptionKey | format | verbose | quiet | input | depthFirst | limit | force
  deriving DecidableEq, Repr

namespace OptionKey

def shape : OptionKey → OptionShape
  | format | input | limit => .valued
  | verbose => .counted
  | quiet | depthFirst | force => .single

/-- The name behind two hyphens. -/
def long : OptionKey → String
  | format => "format"
  | verbose => "verbose"
  | quiet => "quiet"
  | input => "input"
  | depthFirst => "dfs"
  | limit => "limit"
  | force => "force"

def short? : OptionKey → Option Char
  | format => some 'f'
  | verbose => some 'v'
  | quiet => some 'q'
  | input => some 'i'
  | limit => some 'l'
  | depthFirst | force => none

/-- The options that may stand on every level. -/
def everywhere : List OptionKey := [format, verbose, quiet]

end OptionKey

inductive Level
  | top | query | explain | sort | functions
  | config | getSetting | setSetting | listSettings | configPath | initConfig
  deriving DecidableEq, Repr

namespace Level

def options : Level → List OptionKey
  | query => [.input, .depthFirst, .limit] ++ OptionKey.everywhere
  | sort => .input :: OptionKey.everywhere
  | initConfig => .force :: OptionKey.everywhere
  | _ => OptionKey.everywhere

def ofLong? (level : Level) (name : String) : Option OptionKey :=
  level.options.find? (·.long = name)

def ofShort? (level : Level) (letter : Char) : Option OptionKey :=
  level.options.find? (·.short? = some letter)

def commands : Level → List (String × Level)
  | top => [("query", query), ("explain", explain), ("sort", sort), ("functions", functions),
      ("config", config)]
  | config => [("get", getSetting), ("set", setSetting), ("list", listSettings),
      ("path", configPath), ("init", initConfig)]
  | _ => []

def ofCommand? (level : Level) (name : String) : Option Level := level.commands.lookup name

end Level

end GraphSelect.CommandLine
