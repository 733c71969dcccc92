import GraphSelect.Data
import GraphSelect.Decimal.Layout
import GraphSelect.Text.Quoted

/-! # Types of bound values

A target says what kind of value data is converted to. The conversion is strict: only integers
that fit become integers, only texts become texts, and where it fails the error names the first
part that does not fit and what was expected in its place. -/
namespace GraphSelect

inductive Width | uint8 | uint16 | uint32 | uint64 | usize | int8 | int32 | int64
  deriving DecidableEq, Repr

namespace Width

def min : Width → Int
  | uint8 | uint16 | uint32 | uint64 | usize => 0
  | int8 => -0x80
  | int32 => -0x80000000
  | int64 => -0x8000000000000000

def max : Width → Int
  | uint8 => 0xff
  | uint16 => 0xffff
  | uint32 => 0xffffffff
  | uint64 | usize => 0xffffffffffffffff
  | int8 => 0x7f
  | int32 => 0x7fffffff
  | int64 => 0x7fffffffffffffff

def contains (w : Width) (i : Int) : Bool := w.min ≤ i && i ≤ w.max

def name : Width → String
  | uint8 => "u8"
  | uint16 => "u16"
  | uint32 => "u32"
  | uint64 => "u64"
  | usize => "usize"
  | int8 => "i8"
  | int32 => "i32"
  | int64 => "i64"

end Width

inductive Target
  | bool
  | char
  | text
  | float
  | integer (w : Width)
  /-- Data of any shape. -/
  | data
  /-- A value that may be null. -/
  | optional (t : Target)
  | list (element : Target)
  /-- Names with values, in the order of the names. -/
  | map (value : Target)
  | pair (first second : Target)
  deriving DecidableEq, Repr

/-- What is expected where a value of a target stands. -/
def Target.expectation : Target → String
  | bool => "a boolean"
  | char => "a character"
  | text => "a string"
  | float => "f64"
  | integer w => w.name
  | data => "any value"
  | optional t => t.expectation
  | list _ => "a sequence"
  | map _ => "a map"
  | pair _ _ => "a tuple of size 2"

inductive Value
  | bool (b : Bool)
  | char (c : Char)
  | text (s : String)
  | float (x : Float)
  | int (i : Int)
  | data (d : Data)
  | none
  | some (v : Value)
  | list (vs : List Value)
  | map (fields : List (String × Value))
  | pair (first second : Value)
  deriving Repr, Inhabited

inductive Mismatch
  /-- The data is of another kind. -/
  | kind (found : Data) (expected : Target)
  /-- The data is of the right kind but out of range. -/
  | range (found : Data) (expected : Target)
  | tooShort (count : Nat) (expected : Target)
  | tooLong (count : Nat)
  /-- The reader of the text refused it. -/
  | refused (reason : String)
  deriving Repr

namespace Mismatch

def describe : Data → String
  | .null => "null"
  | .bool b => "boolean `" ++ (if b then "true" else "false") ++ "`"
  | .int i => "integer `" ++ toString i ++ "`"
  | .float x => "floating point `" ++ Decimal.messageLayout.write x ++ "`"
  | .text s => "string " ++ Text.quoted s
  | .list _ => "sequence"
  | .record _ => "map"

def message : Mismatch → String
  | kind found expected => "invalid type: " ++ describe found ++ ", expected " ++ expected.expectation
  | range found expected =>
    "invalid value: " ++ describe found ++ ", expected " ++ expected.expectation
  | tooShort count expected =>
    "invalid length " ++ toString count ++ ", expected " ++ expected.expectation
  | tooLong count => "invalid length " ++ toString count ++ ", expected fewer elements in array"
  | refused reason => reason

end Mismatch

namespace Target

/-- The value of a target that data denotes. -/
def convert : Target → Data → Except Mismatch Value
  | bool, .bool b => .ok (.bool b)
  | char, .text s =>
    match s.toList with
    | [c] => .ok (.char c)
    | _ => .error (.range (.text s) char)
  | text, .text s => .ok (.text s)
  | float, .int i => .ok (.float (Decimal.floatOfInt i))
  | float, .float x => .ok (.float x)
  | integer w, .int i => if w.contains i then .ok (.int i) else .error (.range (.int i) (integer w))
  | data, d => .ok (.data d)
  | optional _, .null => .ok .none
  | optional t, d => (t.convert d).map .some
  | list t, .list items => (items.mapM t.convert).map .list
  | map t, .record fields =>
    ((Data.sortFields fields).mapM fun p => (t.convert p.2).map (p.1, ·)).map .map
  | pair first second, .list items =>
    match items with
    | [] => .error (.tooShort 0 (pair first second))
    | [a] => do
      let _ ← first.convert a
      .error (.tooShort 1 (pair first second))
    | a :: b :: rest => do
      let v ← first.convert a
      let w ← second.convert b
      if rest.isEmpty then .ok (.pair v w) else .error (.tooLong items.length)
  | t, d => .error (.kind d t)

end Target

end GraphSelect
