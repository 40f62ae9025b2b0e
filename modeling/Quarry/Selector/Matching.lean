import Quarry.Page.Spot
import Quarry.Selector.Basic

/-!
Which elements of a page a selector means.
-/

namespace Quarry

namespace Selector

open Page (Spot)

/-! ## 1. Conditions -/

def fold (ignoreCase : Bool) (s : String) : List Char :=
  if ignoreCase then s.toList.map Char.toLower else s.toList

def words (isSpace : Char → Bool) (cs : List Char) : List (List Char) :=
  (cs.splitBy fun a b => isSpace a == isSpace b).filter fun word => !word.all isSpace

def isWithin (part : List Char) : List Char → Bool
  | [] => part.isEmpty
  | c :: rest => part.isPrefixOf (c :: rest) || isWithin part rest

/-- Whether a value passes a test. An empty text is no part of a value. -/
def ValueTest.passes (test : ValueTest) (value expected : List Char) : Bool :=
  match test with
  | equal => value == expected
  | word => !expected.isEmpty && (words Char.isWhitespace value).contains expected
  | language => value == expected || (expected ++ ['-']).isPrefixOf value
  | starts => !expected.isEmpty && expected.isPrefixOf value
  | ends => !expected.isEmpty && expected.isSuffixOf value
  | holds => !expected.isEmpty && isWithin expected value

def Count.position (count : Count) (spot : Spot) : Nat :=
  let siblings := if count.fromEnd then spot.elementsAfter else spot.elementsBefore
  let counted := siblings.filter fun other =>
    !count.sameName || other.node.name? == spot.node.name?
  counted.length + 1

/-- Whether a position is a multiple of a step, from none up, with an offset added. -/
def isAt (step offset : Int) (position : Nat) : Bool :=
  let difference := (position : Int) - offset
  if step = 0 then difference = 0 else difference % step = 0 && 0 ≤ difference * step

/-- The nodes that an element stands to, the nearest first. -/
def Combinator.reach (c : Combinator) (spot : Spot) : List Spot :=
  match c with
  | within => ancestors spot
  | child => spot.parent?.toList
  | next => spot.elementsBefore.take 1
  | later => spot.elementsBefore
where
  ancestors : Spot → List Spot
    | .root _ => []
    | .child parent _ _ _ => parent :: ancestors parent

/-! ## 2. Selectors -/

/-- What a selector is looked up against: the element that is its scope, and the one that others
are looked for from. -/
structure Surroundings where
  scope : List Nat
  anchor : List Nat

mutual

def Simple.holds (s : Surroundings) (spot : Spot) : Simple → Bool
  | .any => true
  | .never => false
  | .name lowered => spot.node.name? == some lowered
  | .id value => spot.attribute? "id" == some value
  | .ofClass value =>
    ((spot.attribute? "class").map fun names =>
      (words Text.isBlank names.toList).contains value.toList).getD false
  | .hasAttribute key => (spot.attribute? key).isSome
  | .attribute key test value ignoreCase =>
    (spot.attribute? key).any fun text =>
      test.passes (fold ignoreCase text) (fold ignoreCase value)
  | .root => spot.parent?.isNone
  | .empty => !spot.node.children.any fun node => node.isElement || node.isText
  | .scope => spot.path == s.scope
  | .position count step offset => isAt step offset (count.position spot)
  | .not inner => !Complex.anyHolds s spot inner
  | .anyOf inner => Complex.anyHolds s spot inner
  | .has inner =>
    (spot.descendants ++ spot.elementsAfter.flatMap Spot.elements).any fun other =>
      Complex.anyHolds { s with anchor := spot.path } other inner

def Simple.allHold (s : Surroundings) (spot : Spot) : List Simple → Bool
  | [] => true
  | condition :: rest => Simple.holds s spot condition && Simple.allHold s spot rest

def Complex.holds (s : Surroundings) (spot : Spot) : Complex → Bool
  | .anchor => spot.path == s.anchor
  | .alone conditions => Simple.allHold s spot conditions
  | .after left c conditions =>
    Simple.allHold s spot conditions && (c.reach spot).any fun other => Complex.holds s other left

def Complex.anyHolds (s : Surroundings) (spot : Spot) : List Complex → Bool
  | [] => false
  | part :: rest => Complex.holds s spot part || Complex.anyHolds s spot rest

end

def isMatch (s : Selector) (scope : List Nat) (spot : Spot) : Bool :=
  Complex.anyHolds ⟨scope, []⟩ spot s.parts

def selectAll (s : Selector) (root : Spot) : List Spot :=
  root.elements.filter (s.isMatch [])

def select (s : Selector) (spot : Spot) : List Spot :=
  spot.descendants.filter (s.isMatch spot.path)

end Selector

end Quarry
