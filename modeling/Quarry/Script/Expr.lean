import Quarry.Script.Position
import Quarry.Value.Basic
import Quarry.Value.Operator

/-!
Expressions of the script language.
-/

namespace Quarry.Script

inductive Take where
  | text
  | html
  | attribute (name : String)
deriving DecidableEq, Repr

/-- `pick selector [take part] [match pattern [replace template]]`. -/
structure Pick where
  selector : String
  take : Option Take
  pattern : Option String
  replace : Option String
deriving DecidableEq, Repr

mutual

/-- An expression. `simpleCase` compares a subject with each branch, `searchedCase` tests the
branches as conditions. The position of an operation is that of its operator. -/
inductive Expr where
  | literal (value : Value)
  | column (name : String) (position : Position)
  | pick (pick : Pick) (position : Position)
  | simpleCase (subject : Expr) (branches : Branches) (position : Position)
  | searchedCase (branches : Branches) (position : Position)
  | binary (op : Operator) (left right : Expr) (position : Position)
  | not (operand : Expr)

/-- The branches of a case, ended by `end` or by `else result end`. -/
inductive Branches where
  | done
  | otherwise (result : Expr)
  | branch (condition result : Expr) (rest : Branches)

end

deriving instance DecidableEq for Expr, Branches

namespace Expr

/-- The name that a projection of the expression has by itself. -/
def name? : Expr → Option String
  | column name _ => some name
  | _ => none

end Expr

end Quarry.Script
