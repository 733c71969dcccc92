/-! # Writing texts in TOML

A text is written in the plainest way that holds it: between quotation marks without escapes, else
between apostrophes, else over several lines in either of the two ways, and with escapes only when
nothing else is left. -/
namespace GraphSelect.Toml

inductive Style
  | basic
  | literal
  | basicLines
  | literalLines
  deriving DecidableEq, Repr

def longestRun (c : Char) (s : List Char) : Nat :=
  (s.foldl (fun (longest, run) d =>
    let run := if d = c then run + 1 else 0
    (max longest run, run)) (0, 0)).1

/-- Control characters that only an escape can hold. -/
def needsEscape (c : Char) : Bool :=
  (c.toNat < 0x20 || c.toNat = 0x7f) && c ≠ '\t' && c ≠ '\n'

def style (s : List Char) : Style :=
  let marks := longestRun '"' s
  let apostrophes := longestRun '\'' s
  let backslash := s.contains '\\'
  let lines := s.contains '\n'
  if s.any needsEscape then if lines then .basicLines else .basic
  else if !backslash && marks = 0 && !lines then .basic
  else if apostrophes = 0 && !lines then .literal
  else if !backslash && marks ≤ 2 then .basicLines
  else if apostrophes ≤ 2 then .literalLines
  else if lines then .basicLines else .basic

def upperHexDigit (n : Nat) : Char := Char.ofNat (if n < 10 then '0'.toNat + n else 'A'.toNat + n - 10)

def escapedChar (lines : Bool) (c : Char) : List Char :=
  if c = '\x08' then ['\\', 'b']
  else if c = '\t' then ['\\', 't']
  else if c = '\n' then if lines then [c] else ['\\', 'n']
  else if c = '\x0c' then ['\\', 'f']
  else if c = '\r' then ['\\', 'r']
  else if c = '\\' then ['\\', '\\']
  else if c.toNat < 0x20 || c.toNat = 0x7f then
    ['\\', 'u', '0', '0', upperHexDigit (c.toNat / 16), upperHexDigit (c.toNat % 16)]
  else [c]

/-- A text with escapes; over several lines two marks in a row need none. -/
def escaped (lines : Bool) : (run : Nat) → List Char → List Char
  | _, [] => []
  | run, c :: rest =>
    if c = '"' then
      if lines && run < 2 then c :: escaped lines (run + 1) rest
      else '\\' :: c :: escaped lines 0 rest
    else escapedChar lines c ++ escaped lines 0 rest

def quote (text : String) : String :=
  let s := text.toList
  let start := if s.contains '\n' then ['\n'] else []
  String.ofList <| match style s with
    | .basic => ['"'] ++ escaped false 0 s ++ ['"']
    | .literal => ['\''] ++ s ++ ['\'']
    | .basicLines => ['"', '"', '"'] ++ start ++ escaped true 0 s ++ ['"', '"', '"']
    | .literalLines => ['\'', '\'', '\''] ++ start ++ s ++ ['\'', '\'', '\'']

end GraphSelect.Toml
