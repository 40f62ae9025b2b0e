import Quarry.Script.Expr
import Quarry.Script.Parser.Basic

/-!
Reading expressions. From loose to tight: `or`, `and`, `not`, one comparison, sums, products,
and the primary expressions, which hold whole expressions again between their own tokens. The
bounds that the readers take are never reached on a scan with fewer lexemes.
-/

namespace Quarry.Script.Parser

/-! ## 1. Operators -/

def chainFrom (op? : Token → Option Operator) (operand : Parser Expr) :
    Nat → Expr → Parser Expr
  | 0, left => return left
  | bound + 1, left => do
    match op? (← peek) with
    | none => return left
    | some op =>
      let position ← place
      advance
      let right ← operand
      chainFrom op? operand bound (.binary op left right position)

def chain (op? : Token → Option Operator) (operand : Parser Expr) (bound : Nat) :
    Parser Expr := do
  let first ← operand
  chainFrom op? operand bound first

def productOp? : Token → Option Operator
  | .star => some .multiply
  | .slash => some .divide
  | .percent => some .modulo
  | _ => none

def sumOp? : Token → Option Operator
  | .plus => some .add
  | .minus => some .subtract
  | _ => none

def comparisonOp? : Token → Option Operator
  | .eq => some .equal
  | .notEq => some .notEqual
  | .lt => some .less
  | .gt => some .greater
  | .ltEq => some .lessEqual
  | .gtEq => some .greaterEqual
  | _ => none

def andOp? : Token → Option Operator
  | .and => some .and
  | _ => none

def orOp? : Token → Option Operator
  | .or => some .or
  | _ => none

/-- Reads a comparison: at most one operator, so that `a < b < c` is no expression. -/
def comparison (primary : Parser Expr) (bound : Nat) : Parser Expr :=
  let sum := chain sumOp? (chain productOp? primary bound) bound
  chain comparisonOp? sum 1

def negation (primary : Parser Expr) (bound : Nat) : Nat → Parser Expr
  | 0 => comparison primary bound
  | depth + 1 => do
    if ← accept .not then
      return .not (← negation primary bound depth)
    else comparison primary bound

def ladder (primary : Parser Expr) (bound : Nat) : Parser Expr :=
  chain orOp? (chain andOp? (negation primary bound bound) bound) bound

/-! ## 2. Primary expressions -/

def take : Parser Take := do
  if ← acceptWord "text" then return .text
  if ← acceptWord "html" then return .html
  if ← acceptWord "attribute" then return .attribute (← string "attribute name")
  expected "'text', 'html' or 'attribute' after 'take'"

def pick : Parser Pick := do
  let selector ← string "selector"
  let take ← if ← accept .take then some <$> take else pure none
  let pattern ← if ← accept .match then some <$> string "regular expression" else pure none
  if (← peek) = .replace then
    if pattern.isNone then fail .replaceWithoutMatch
    advance
    let replace ← string "replacement template"
    return { selector, take, pattern, replace := some replace }
  return { selector, take, pattern, replace := none }

def branches (expression : Parser Expr) : Nat → Parser Branches
  | 0 => expected Token.end.describe
  | bound + 1 => do
    if ← accept .when then
      let condition ← expression
      expect .then
      let result ← expression
      return .branch condition result (← branches expression bound)
    if ← accept .else then
      let result ← expression
      expect .end
      return .otherwise result
    expect .end
    return .done

def case (expression : Parser Expr) (bound : Nat) (position : Position) : Parser Expr := do
  let subject ← if (← peek) = .when then pure none else some <$> expression
  unless (← peek) = .when do fail .caseWithoutWhen
  let branches ← branches expression bound
  match subject with
  | none => return .searchedCase branches position
  | some subject => return .simpleCase subject branches position

/-- A minus in front of an operand: a number changes its sign, anything else is subtracted from
zero. -/
def negate (position : Position) : Expr → Expr
  | .literal (.integer n) => .literal (.integer (-n))
  | .literal (.float x) => .literal (.float (-x))
  | operand => .binary .subtract (.literal (.integer 0)) operand position

def primary : Nat → Parser Expr
  | 0 => do fail (.noExpression (← peek))
  | bound + 1 => do
    let position ← place
    let expression := ladder (primary bound) bound
    match ← peek with
    | .float x => advance; return .literal (.float x)
    | .integer n => advance; return .literal (.integer n)
    | .string text => advance; return .literal (.string text)
    | .boolean b => advance; return .literal (.boolean b)
    | .null => advance; return .literal .null
    | .identifier name => advance; return .column name position
    | .pick => advance; return .pick (← pick) position
    | .case => advance; case expression bound position
    | .lparen =>
      advance
      let inner ← expression
      expect .rparen
      return inner
    | .minus =>
      advance
      return negate position (← primary bound)
    | token => fail (.noExpression token)

/-- Reads an expression from a scan with at most `bound` lexemes. -/
def expression (bound : Nat) : Parser Expr := ladder (primary (bound + 1)) (bound + 1)

end Quarry.Script.Parser

namespace Quarry.Script

def parseExpr (source : String) : Except SyntaxError Expr := do
  let start ← Parser.settle (scan source)
  let (expr, rest) ← (Parser.expression start.size).run start
  let _ ← (Parser.expect .eof).run rest
  return expr

end Quarry.Script
