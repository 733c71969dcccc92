/-! # Writing JSON

The output of the command line: values with two blanks of indentation for each level. Only texts,
whole numbers, lists and records are written. -/
namespace GraphSelect.Json

/-- What the command line writes. -/
inductive Output
  | text (s : String)
  | natural (n : Nat)
  | list (items : List Output)
  | record (fields : List (String × Output))
  deriving Inhabited

def hexChar (n : Nat) : Char := if n < 10 then Char.ofNat (48 + n) else Char.ofNat (87 + n)

def quoteChar (c : Char) : List Char :=
  if c = '"' then ['\\', '"']
  else if c = '\\' then ['\\', '\\']
  else if c = '\n' then ['\\', 'n']
  else if c = '\r' then ['\\', 'r']
  else if c = '\t' then ['\\', 't']
  else if c = '\x08' then ['\\', 'b']
  else if c = '\x0c' then ['\\', 'f']
  else if c.toNat < 0x20 then ['\\', 'u', '0', '0', hexChar (c.toNat / 16), hexChar (c.toNat % 16)]
  else [c]

def quote (s : String) : String := String.ofList ('"' :: s.toList.flatMap quoteChar ++ ['"'])

def newline (level : Nat) : String := "\n" ++ String.ofList (List.replicate (2 * level) ' ')

mutual

def Output.write (level : Nat) : Output → String
  | .text s => quote s
  | .natural n => toString n
  | .list [] => "[]"
  | .list (a :: rest) =>
    "[" ++ newline (level + 1) ++ a.write (level + 1) ++ writeItems (level + 1) rest ++
      newline level ++ "]"
  | .record [] => "\x7b\x7d"
  | .record ((k, a) :: rest) =>
    "\x7b" ++ newline (level + 1) ++ quote k ++ ": " ++ a.write (level + 1) ++
      writeFields (level + 1) rest ++ newline level ++ "\x7d"

/-- The items of a list behind the first. -/
def Output.writeItems (level : Nat) : List Output → String
  | [] => ""
  | a :: rest => "," ++ newline level ++ a.write level ++ writeItems level rest

/-- The fields of a record behind the first. -/
def Output.writeFields (level : Nat) : List (String × Output) → String
  | [] => ""
  | (k, a) :: rest =>
    "," ++ newline level ++ quote k ++ ": " ++ a.write level ++ writeFields level rest

end

def Output.pretty (o : Output) : String := o.write 0

end GraphSelect.Json
