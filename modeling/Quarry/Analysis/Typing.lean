import Quarry.Analysis.Scope

/-!
The types of expressions.
-/

namespace Quarry

open Script

/-- How an operand counts in arithmetic: a string is read as a number when the script runs, and
null is none, so that both take the type of the other side. -/
def ValueType.asNumber : ValueType → ValueType
  | string | null => integer
  | t => t

/-- The type of an operator's result, or nothing where the operands do not fit. `+` joins texts
when either side is a string, and a quotient is a float. -/
def Operator.type? (op : Operator) (left right : ValueType) : Option ValueType :=
  if op.isComparison || op.isLogical then some .boolean
  else
    match left, right with
    | .boolean, _ | _, .boolean => none
    | _, _ =>
      if op = .add ∧ (left = .string ∨ right = .string) then some .string
      else if left = .null ∧ right = .null then some .null
      else if op = .divide then some .float
      else if left.asNumber = .integer ∧ right.asNumber = .integer then some .integer
      else some .float

def joinBranch (position : Position) (sofar found : ValueType) :
    Except CompileError ValueType :=
  match sofar.unify? found with
  | some t => .ok t
  | none => .error ⟨position, .typeMismatch "case branches" sofar found⟩

mutual

/-- The type of an expression. Parts are looked at from left to right. -/
def Script.Expr.infer (scope : Scope) : Expr → Except CompileError ValueType
  | .literal value => .ok value.type
  | .column name position =>
    match scope.columnType? name with
    | some t => .ok t
    | none => .error ⟨position, .unknownIdentifier name⟩
  | .pick _ _ => .ok .string
  | .simpleCase subject branches position => do
    let _ ← subject.infer scope
    branches.infer scope position .null
  | .searchedCase branches position => branches.infer scope position .null
  | .binary op left right position => do
    let l ← left.infer scope
    let r ← right.infer scope
    match op.type? l r with
    | some t => .ok t
    | none => .error ⟨position, .typeMismatch s!"operator '{op.symbol}'" l r⟩
  | .not operand => do
    let _ ← operand.infer scope
    return .boolean

def Script.Branches.infer (scope : Scope) (position : Position) (sofar : ValueType) :
    Branches → Except CompileError ValueType
  | .done => .ok sofar
  | .otherwise result => do joinBranch position sofar (← result.infer scope)
  | .branch condition result rest => do
    let _ ← condition.infer scope
    let sofar ← joinBranch position sofar (← result.infer scope)
    rest.infer scope position sofar

end

end Quarry
