import GraphSelect.Text.Natural
import GraphSelect.Text.Scan

/-! # Dates and times

A configuration or a document may hold a date, a time of day, or both with an offset. They are
read strictly, checked against the calendar, and written in one normal form: seconds are always
there, a fraction has no zeros at its end, and a large T joins date and time. -/
namespace GraphSelect.Toml

open Text

structure Date where
  year : Nat
  month : Nat
  day : Nat
  deriving DecidableEq, Repr

structure Time where
  hour : Nat
  minute : Nat
  second : Nat
  nanosecond : Nat
  deriving DecidableEq, Repr

/-- The distance of a local time from the universal time. -/
inductive Offset
  | utc
  | ahead (hours minutes : Nat)
  | behind (hours minutes : Nat)
  deriving DecidableEq, Repr

inductive DateTime
  | date (d : Date)
  | time (t : Time)
  | both (d : Date) (t : Time) (offset : Option Offset)
  deriving DecidableEq, Repr

def isLeapYear (year : Nat) : Bool := year % 4 = 0 && (year % 100 ≠ 0 || year % 400 = 0)

def daysInMonth (year month : Nat) : Nat :=
  if month = 2 then if isLeapYear year then 29 else 28
  else if month = 4 || month = 6 || month = 9 || month = 11 then 30
  else 31

def fixedDigits (count : Nat) : Scan Unit Nat := do
  let digits := (← Scan.ahead).take count
  if digits.length < count || !digits.all Char.isDigit then Scan.fail ()
  Scan.drop count
  return digitsValue digits

/-- Two digits whose value lies between bounds. -/
def twoDigits (low high : Nat) : Scan Unit Nat := do
  let n ← fixedDigits 2
  if n < low || high < n then Scan.fail ()
  return n

def expect (c : Char) : Scan Unit Unit := do if !(← Scan.eat c) then Scan.fail ()

def date : Scan Unit Date := do
  let year ← fixedDigits 4
  expect '-'
  let month ← twoDigits 1 12
  expect '-'
  let day ← twoDigits 1 31
  if daysInMonth year month < day then Scan.fail ()
  return ⟨year, month, day⟩

/-- The nanoseconds of a fraction of a second; digits beyond the ninth are cut off. -/
def nanoseconds (digits : List Char) : Nat :=
  digitsValue ((digits ++ List.replicate 9 '0').take 9)

def time : Scan Unit Time := do
  let hour ← twoDigits 0 23
  expect ':'
  let minute ← twoDigits 0 59
  expect ':'
  let second ← twoDigits 0 60
  if ← Scan.eat '.' then
    let digits ← Scan.takeWhile Char.isDigit
    if digits.isEmpty then Scan.fail ()
    return ⟨hour, minute, second, nanoseconds digits⟩
  else return ⟨hour, minute, second, 0⟩

/-- An offset, if one stands ahead. An offset of nothing is not behind. -/
def offset? : Scan Unit (Option Offset) := do
  let next ← Scan.peek
  if next = some 'Z' || next = some 'z' then
    Scan.drop 1
    return some .utc
  else if next = some '+' || next = some '-' then
    Scan.drop 1
    let hours ← twoDigits 0 23
    expect ':'
    let minutes ← twoDigits 0 59
    return some (if next = some '-' && 0 < hours + minutes then .behind hours minutes
      else .ahead hours minutes)
  else return none

/-- Whether a time of day stands behind the mark that may join it to a date. -/
def joinsTime : List Char → Bool
  | mark :: a :: b :: ':' :: _ =>
    (mark = 'T' || mark = 't' || mark = ' ') && a.isDigit && b.isDigit
  | _ => false

def dateWithTime : Scan Unit DateTime := do
  let d ← date
  if joinsTime (← Scan.ahead) then
    Scan.drop 1
    let t ← time
    return .both d t (← offset?)
  else return .date d

/-- A date or a time, if the text ahead begins like one: with four digits and a hyphen, or with
two digits and a colon. -/
def dateTime? : Scan Unit (Option DateTime) := do
  match ← Scan.ahead with
  | a :: b :: c :: d :: '-' :: _ =>
    if [a, b, c, d].all Char.isDigit then return some (← dateWithTime) else return none
  | a :: b :: ':' :: _ =>
    if a.isDigit && b.isDigit then return some (.time (← time)) else return none
  | _ => return none

def padded (length n : Nat) : String :=
  let digits := toString n
  String.ofList (List.replicate (length - digits.length) '0') ++ digits

def Date.text (d : Date) : String :=
  padded 4 d.year ++ "-" ++ padded 2 d.month ++ "-" ++ padded 2 d.day

def fractionText (nanosecond : Nat) : String :=
  if nanosecond = 0 then ""
  else
    let digits := (padded 9 nanosecond).toList.reverse.dropWhile (· = '0')
    "." ++ String.ofList digits.reverse

def Time.text (t : Time) : String :=
  padded 2 t.hour ++ ":" ++ padded 2 t.minute ++ ":" ++ padded 2 t.second ++
    fractionText t.nanosecond

def Offset.text : Offset → String
  | utc => "Z"
  | ahead hours minutes => "+" ++ padded 2 hours ++ ":" ++ padded 2 minutes
  | behind hours minutes => "-" ++ padded 2 hours ++ ":" ++ padded 2 minutes

def DateTime.text : DateTime → String
  | date d => d.text
  | time t => t.text
  | both d t offset => d.text ++ "T" ++ t.text ++ (offset.map Offset.text).getD ""

end GraphSelect.Toml
