import GraphSelect.Selector.Registry
import GraphSelect.Selector.Token

/-! # Snippets of a segment

A segment is a run of snippets, each of which is one filter: a name, a star, an index, an
attribute clause, a function call or a block. The first character decides which it is. The reader
of blocks is passed in, because a block holds a whole selector. -/
namespace GraphSelect.Selector

open Text

/-- Characters that end an unfinished index. -/
def endsIndex (c : Char) : Bool := isBlank c || c = '/'

/-- An index, behind its hash. Only a boundary or a clause in brackets may follow the digits. -/
def indexSnippet : Read Filter := do
  let digits ← Scan.takeWhile Char.isDigit
  let follows ← Scan.peek
  let mayFollow (c : Char) : Bool := endsIndex c || c = '[' || c = '\x7b' || c = '}'
  if digits.isEmpty || follows.any (!mayFollow ·) then
    let rest ← Scan.takeWhile (!endsIndex ·)
    lift (.error (.invalidIndex (String.ofList ('#' :: digits ++ rest))))
  else match readDigits digits with
    | some n => return .index n
    | none => lift (.error (.invalidIndex (String.ofList ('#' :: digits))))

/-- The name in an attribute clause: a star, a quoted pattern or an identifier. -/
def attributeName : Read Regex := do
  if ← Scan.eat '*' then lift (Regex.anchored ".*")
  else match ← quoted? with
    | some pattern => lift (Regex.anchored pattern)
    | none =>
      let s ← Scan.ahead
      let name ← Scan.takeWhile isIdentChar
      if name.isEmpty then Scan.fail (.fault s .missingAttributeName)
      lift (Regex.literal (String.ofList name))

/-- The value in an attribute clause: a quoted pattern, or text up to the closing bracket. -/
def attributeValue : Read Regex := do
  match ← quoted? with
  | some pattern => lift (Regex.anchored pattern)
  | none =>
    let text ← Scan.takeWhile (· ≠ ']')
    lift (Regex.literal (String.ofList (trim text)))

/-- An attribute clause, behind its bracket; `start` is the text from the bracket on. -/
def attributeSnippet (start : List Char) : Read Filter := do
  blanks
  let name ← attributeName
  blanks
  let value ← if ← Scan.eat '=' then do
      blanks
      pure (some (← attributeValue))
    else pure none
  blanks
  if ← Scan.eat ']' then return .hasAttribute name value
  else Scan.fail (.fault start .openAttribute)

def argumentValue : Read (String × Bool) := do
  match ← quoted? with
  | some text => return (text, true)
  | none =>
    let s ← Scan.ahead
    let text := trim (← Scan.takeWhile fun c => c ≠ ',' && c ≠ ')')
    if text.isEmpty then Scan.fail (.fault s .missingArgument)
    return (String.ofList text, false)

def argumentKey : Read (Option String) := do
  let s ← Scan.ahead
  let key := s.takeWhile isIdentChar
  match skipBlanks (s.dropWhile isIdentChar) with
  | '=' :: rest =>
    if key.isEmpty then return none
    else
      Scan.drop (s.length - rest.length)
      blanks
      return some (String.ofList key)
  | _ => return none

/-- One argument with the blanks around it: its name, if it has one, its value, and whether the
value was quoted. -/
def argument : Read (Option String × String × Bool) := do
  blanks
  let key ← argumentKey
  let (value, isQuoted) ← argumentValue
  blanks
  return (key, value, isQuoted)

def addArgument (args : Args) : Option String × String × Bool → Args
  | (some key, value, isQuoted) => args.pushNamed key value isQuoted
  | (none, value, isQuoted) => args.pushPositional value isQuoted

/-- The arguments of a call, behind the parenthesis; `start` is the text from the name of the function
on. -/
def callArguments (start : List Char) (function : String) : Read Args := do
  blanks
  let given ← if ← Scan.eat ')' then pure []
    else Scan.commaList (.fault start (.openCall function)) argument ')'
  return given.foldl addArgument .empty

def callSnippet (registry : Registry) (start : List Char) (function : String) : Read Filter := do
  let args ← callArguments start function
  return .function function args (← lift (registry.resolve function args))

/-- A name or a call; the first character has been taken. -/
def wordSnippet (registry : Registry) (c : Char) (start : List Char) : Read Filter := do
  let word := String.ofList (c :: (← Scan.takeWhile isIdentChar))
  if ← Scan.eat '(' then callSnippet registry start word
  else return .name (← lift (Regex.literal word))

def quotedSnippet (c : Char) (start : List Char) : Read Filter := do
  return .name (← lift (Regex.anchored (← quoted c start)))

/-- The reader of the snippet that begins with a character and goes on with `rest`. Two stars are
no snippet. -/
def snippet? (registry : Registry) (block : List Char → Read Filter) (c : Char) (rest : List Char) :
    Option (Read Filter) :=
  if isQuote c then some (quotedSnippet c (c :: rest))
  else if isIdentChar c then some (wordSnippet registry c (c :: rest))
  else match c with
    | '*' => if rest.head? = some '*' then none else some (pure .any)
    | '#' => some indexSnippet
    | '[' => some (attributeSnippet (c :: rest))
    | '\x7b' => some (block (c :: rest))
    | _ => none

def snippets (registry : Registry) (block : List Char → Read Filter) : Read (List Filter) :=
  Scan.many do
    match ← Scan.ahead with
    | [] => return none
    | c :: rest =>
      match snippet? registry block c rest with
      | none => return none
      | some read => do
        Scan.drop 1
        return some (← read)

end GraphSelect.Selector
