import Quarry.Script.Expr
import Quarry.Text.Caseless

/-!
The selector of a page's rows. A conjunct `nodes = 'selector'` of the filter of a page is no
condition: it names the elements that become rows. The first one is taken out of the filter.
-/

namespace Quarry.Script.Expr

/-- The selector, if the expression is `nodes = 'selector'`. -/
def nodesSelector? : Expr → Option String
  | binary .equal (column name _) (literal (.string selector)) _ =>
    if Text.sameName name "nodes" then some selector else none
  | _ => none

def conjoin (position : Position) : Option Expr → Option Expr → Option Expr
  | some left, some right => some (binary .and left right position)
  | some left, none => some left
  | none, right => right

/-- The selector of a filter and the filter without it. -/
def liftNodes : Expr → Option String × Option Expr
  | binary .and left right position =>
    match left.liftNodes with
    | (some selector, rest) => (some selector, conjoin position rest (some right))
    | (none, rest) =>
      let (selector, rest') := right.liftNodes
      (selector, conjoin position rest rest')
  | e =>
    match e.nodesSelector? with
    | some selector => (some selector, none)
    | none => (none, some e)

end Quarry.Script.Expr
