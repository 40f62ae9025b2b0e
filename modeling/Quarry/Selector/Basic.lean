/-!
Selectors: which elements of a page are meant.
-/

namespace Quarry

namespace Selector

inductive ValueTest where
  | equal | word | language | starts | ends | holds
deriving DecidableEq, Repr

/-- The elements that a position is counted among, and from which end. -/
structure Count where
  sameName : Bool
  fromEnd : Bool
deriving DecidableEq, Repr

inductive Combinator where
  | within | child | next | later
deriving DecidableEq, Repr

mutual

inductive Simple where
  | any
  | never
  | name (lowered : String)
  | id (value : String)
  | ofClass (value : String)
  | hasAttribute (key : String)
  | attribute (key : String) (test : ValueTest) (value : String) (ignoreCase : Bool)
  | root
  | empty
  | scope
  | position (count : Count) (step offset : Int)
  | not (inner : List Complex)
  | anyOf (inner : List Complex)
  | has (inner : List Complex)
deriving Repr

/-- Conditions on an element and on others that it stands to. The anchor is the element that
others are looked for from. -/
inductive Complex where
  | anchor
  | alone (conditions : List Simple)
  | after (left : Complex) (combinator : Combinator) (conditions : List Simple)
deriving Repr

end

end Selector

/-- A selector: an element is meant if one of its parts holds. -/
structure Selector where
  parts : List Selector.Complex
deriving Repr

end Quarry
