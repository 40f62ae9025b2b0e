import Quarry.Number.Decimal
import Quarry.Value.Numeric
import Quarry.Value.Operator

/-!
Operators on values. Null goes through every operator. `+` joins texts when either side is a
string; all other arithmetic reads strings as numbers. Integers stay exact, a quotient is always
a float, and an integer meets a float as a decimal.
-/

namespace Quarry

inductive OperatorError where
  | divisionByZero
  | overflow (left : Int64) (op : Operator) (right : Int64)
  | mismatch (op : Operator) (left right : ValueType)
deriving DecidableEq

namespace OperatorError

def message : OperatorError → String
  | divisionByZero => "division by zero"
  | overflow left op right =>
    s!"integer overflow in {left.toInt} {op.symbol} {right.toInt}"
  | mismatch op left right =>
    s!"type error: cannot apply '{op.symbol}' to {left.name} and {right.name}"

end OperatorError

namespace Operator

/-- The truth of a comparison of two values; nothing if they cannot be compared. -/
def compare? (op : Operator) (a b : Value) : Option Bool :=
  match op with
  | equal => a.looseEq? b
  | notEqual => (a.looseEq? b).map not
  | less => (a.compare? b).map (· == .lt)
  | greater => (a.compare? b).map (· == .gt)
  | lessEqual => (a.compare? b).map (· != .gt)
  | greaterEqual => (a.compare? b).map (· != .lt)
  | _ => none

/-- The exact result on integers, before it is checked for 64 bits. -/
def onInts? (op : Operator) (a b : Int) : Option Int :=
  match op with
  | add => some (a + b)
  | subtract => some (a - b)
  | multiply => some (a * b)
  | modulo => some (a.tmod b)
  | _ => none

/-- The result on 64-bit integers. The remainder of the least integer by minus one overflows
with the quotient that it belongs to. -/
def onInt64s (op : Operator) (a b : Int64) : Except OperatorError Int64 :=
  let overflow : Except OperatorError Int64 := .error (.overflow a op b)
  if op = modulo ∧ a = Int64.minValue ∧ b = -1 then overflow
  else
    match (op.onInts? a.toInt b.toInt).bind Number.int64? with
    | some n => .ok n
    | none => overflow

def onFloats (op : Operator) (x y : Float) : Float :=
  match op with
  | add => x + y
  | subtract => x - y
  | multiply => x * y
  | divide => x / y
  | modulo => Number.remainder x y
  | _ => Number.notANumber

def onDecimals? (op : Operator) (a b : Number.Decimal) : Option Number.Decimal :=
  match op with
  | add => a.add? b
  | subtract => a.subtract? b
  | multiply => a.multiply? b
  | divide => a.divide? b
  | modulo => a.remainder? b
  | _ => none

end Operator

namespace Numeric

def decimal? : Numeric → Option Number.Decimal
  | integer n => some (.ofInt64 n)
  | float x => Number.Decimal.ofFloat? x

end Numeric

namespace Operator

/-- The result through decimals, or through floats where decimals have no room. -/
def throughDecimals (op : Operator) (a b : Numeric) : Float :=
  let exact := do op.onDecimals? (← a.decimal?) (← b.decimal?)
  match exact with
  | some d => d.toFloat
  | none => op.onFloats a.toFloat b.toFloat

def onNumerics (op : Operator) (a b : Numeric) : Except OperatorError Value :=
  if (op = divide ∨ op = modulo) ∧ b.toFloat == 0 then .error .divisionByZero
  else
    match a, b with
    | .integer m, .integer n =>
      if op = divide then .ok (.float (op.throughDecimals a b))
      else (op.onInt64s m n).map .integer
    | .float x, .float y => .ok (.float (op.onFloats x y))
    | _, _ => .ok (.float (op.throughDecimals a b))

/-- Applies an operator that does not join conditions to two values. -/
def apply (op : Operator) (a b : Value) : Except OperatorError Value :=
  if op.isComparison then
    .ok (((op.compare? a b).map Value.boolean).getD .null)
  else
    let mismatch : Except OperatorError Value := .error (.mismatch op a.type b.type)
    match a, b with
    | .null, _ | _, .null => .ok .null
    | .string s, b => if op = add then .ok (.string (s ++ b.text)) else numbers mismatch
    | a, .string s => if op = add then .ok (.string (a.text ++ s)) else numbers mismatch
    | _, _ => numbers mismatch
where
  /-- The operands read as numbers. -/
  numbers (mismatch : Except OperatorError Value) : Except OperatorError Value :=
    match a.numeric?, b.numeric? with
    | some x, some y => op.onNumerics x y
    | _, _ => mismatch

end Operator

end Quarry
