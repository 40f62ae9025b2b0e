/-!
The types of columns and expressions.
-/

namespace Quarry

/-- A static type. `null` is the type of the null literal alone. -/
inductive ValueType where
  | integer
  | float
  | string
  | boolean
  | null
deriving DecidableEq, Repr

namespace ValueType

def name : ValueType → String
  | integer => "integer"
  | float => "float"
  | string => "string"
  | boolean => "boolean"
  | null => "null"

/-- The type that a column declaration names, in any ASCII letter case. An identity column holds
integers. -/
def ofName? (name : String) : Option ValueType :=
  match name.toLower with
  | "int" | "integer" | "bigint" | "identity" => some .integer
  | "float" | "double" | "decimal" | "real" => some .float
  | "string" | "text" | "varchar" => some .string
  | "bool" | "boolean" => some .boolean
  | _ => none

/-- The common type of two branches. Null fits every type, and integers widen to floats. -/
def unify? (a b : ValueType) : Option ValueType :=
  if a = b then some a
  else match a, b with
    | null, t | t, null => some t
    | integer, float | float, integer => some float
    | _, _ => none

/-- Whether a column of the first type takes values of the second. What a string holds is seen
when its row is stored. -/
def accepts : ValueType → ValueType → Bool
  | _, null => true
  | string, _ => true
  | integer, integer | integer, string => true
  | float, float | float, integer | float, string => true
  | boolean, boolean => true
  | null, t => t == null
  | _, _ => false

end ValueType

end Quarry
