/-!
The binary operators.
-/

namespace Quarry

inductive Operator where
  | equal | notEqual | less | greater | lessEqual | greaterEqual
  | add | subtract | multiply | divide | modulo
  | and | or
deriving DecidableEq, Repr

namespace Operator

def symbol : Operator → String
  | equal => "="
  | notEqual => "<>"
  | less => "<"
  | greater => ">"
  | lessEqual => "<="
  | greaterEqual => ">="
  | add => "+"
  | subtract => "-"
  | multiply => "*"
  | divide => "/"
  | modulo => "%"
  | and => "and"
  | or => "or"

def all : List Operator :=
  [equal, notEqual, less, greater, lessEqual, greaterEqual, add, subtract, multiply, divide,
    modulo, and, or]

def ofSymbol? (s : String) : Option Operator := all.find? fun op => op.symbol == s

def isComparison : Operator → Bool
  | equal | notEqual | less | greater | lessEqual | greaterEqual => true
  | _ => false

def isLogical : Operator → Bool
  | and | or => true
  | _ => false

end Operator

end Quarry
