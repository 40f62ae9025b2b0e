import Quarry.Number.Layout
import Quarry.Value.Type

/-!
The values of cells.
-/

namespace Quarry

inductive Value where
  | null
  | boolean (value : Bool)
  | integer (value : Int64)
  | float (value : Float)
  | string (value : String)
deriving DecidableEq, Inhabited

namespace Value

def type : Value → ValueType
  | null => .null
  | boolean _ => .boolean
  | integer _ => .integer
  | float _ => .float
  | string _ => .string

def isNull : Value → Bool
  | null => true
  | _ => false

def text : Value → String
  | null => "NULL"
  | boolean b => if b then "true" else "false"
  | integer n => toString n.toInt
  | float x => Number.FloatLayout.plain.write x
  | string s => s

/-- Whether the value counts as true in a condition: a true boolean, a number other than zero or
a string that is not empty. -/
def isTruthy : Value → Bool
  | null => false
  | boolean b => b
  | integer n => n != 0
  | float x => !(x == 0)
  | string s => !s.isEmpty

end Value

end Quarry
