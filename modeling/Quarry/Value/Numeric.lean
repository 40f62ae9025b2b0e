import Quarry.Number.FloatParts
import Quarry.Number.Reading
import Quarry.Text.Blank
import Quarry.Value.Basic

/-!
Values as numbers, and the comparisons built on that reading. A string counts as a number when
its text, without the white space around it, spells one.
-/

namespace Quarry

inductive Numeric where
  | integer (value : Int64)
  | float (value : Float)
deriving DecidableEq

namespace Numeric

def toFloat : Numeric → Float
  | integer n => Number.ofInt64 n
  | float x => x

def toValue : Numeric → Value
  | integer n => .integer n
  | float x => .float x

/-- The order of two floats. No number is ordered with anything. -/
def compareFloats (x y : Float) : Option Ordering :=
  if x < y then some .lt
  else if x == y then some .eq
  else if y < x then some .gt
  else none

/-- The order of two numbers. Two integers compare exactly, anything else as floats. -/
def compare? : Numeric → Numeric → Option Ordering
  | integer a, integer b => some (compareOfLessAndEq a b)
  | a, b => compareFloats a.toFloat b.toFloat

/-- Reads the text of a number: an integer if it is one of 64 bits, else a float. -/
def ofText? (s : String) : Option Numeric :=
  let cs := Text.trimChars s.toList
  match Number.readInt64? cs with
  | some n => some (.integer n)
  | none => (Number.readFloat? cs).map .float

end Numeric

namespace Value

def numeric? : Value → Option Numeric
  | integer n => some (.integer n)
  | float x => some (.float x)
  | string s => Numeric.ofText? s
  | _ => none

/-- Equality as `=` and the branches of a case see it: unknown next to null, exact between two
strings or two booleans, numeric otherwise. -/
def looseEq? : Value → Value → Option Bool
  | null, _ | _, null => none
  | string a, string b => some (a == b)
  | boolean a, boolean b => some (a == b)
  | a, b =>
    match a.numeric?, b.numeric? with
    | some x, some y => some (x.compare? y == some .eq)
    | _, _ => some false

def compare? : Value → Value → Option Ordering
  | null, _ | _, null => none
  | string a, string b => some (compareOfLessAndEq a b)
  | boolean a, boolean b => some (compare a b)
  | a, b =>
    match a.numeric?, b.numeric? with
    | some x, some y => x.compare? y
    | _, _ => none

end Value

end Quarry
