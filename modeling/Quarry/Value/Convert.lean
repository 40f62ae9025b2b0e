import Quarry.Value.Numeric

/-!
Conversion of a value to the type of the column that stores it.
-/

namespace Quarry.Value

def integerOfFloat? (x : Float) : Option Int64 :=
  let b := Number.Binary.ofFloat x
  if b.isWhole then b.truncate?.bind Number.int64? else none

/-- The boolean that a text spells, in any ASCII letter case. -/
def booleanOfText? (s : String) : Option Bool :=
  match (Text.trim s).toLower with
  | "true" => some true
  | "false" => some false
  | _ => none

/-- The value as one of the given type, or nothing if it has no such reading. Null stays null,
and every value has a text. -/
def convert? : ValueType → Value → Option Value
  | _, null => some null
  | .integer, integer n => some (integer n)
  | .integer, float x => (integerOfFloat? x).map integer
  | .integer, string s => (Number.readInt64? (Text.trimChars s.toList)).map integer
  | .float, float x => some (float x)
  | .float, integer n => some (float (Number.ofInt64 n))
  | .float, string s => (Number.readFloat? (Text.trimChars s.toList)).map float
  | .string, v => some (string v.text)
  | .boolean, boolean b => some (boolean b)
  | .boolean, string s => (booleanOfText? s).map boolean
  | .null, v => some v
  | _, _ => none

end Quarry.Value
