import Quarry.Page.Node

/-!
Spots: nodes together with their surroundings in a page, so that parents and siblings can be
reached from them.
-/

namespace Quarry.Page

/-- A node of a page and what is around it: its parent and its siblings, those before it with the
nearest first. -/
inductive Spot where
  | root (node : Node)
  | child (parent : Spot) (before : List Node) (node : Node) (after : List Node)
deriving Repr

namespace Spot

def node : Spot → Node
  | root node => node
  | child _ _ node _ => node

def parent? : Spot → Option Spot
  | root _ => none
  | child parent _ _ _ => some parent

/-- The number of siblings before each node on the way to the root. Two spots of a page are the
same if their paths are. -/
def path : Spot → List Nat
  | root _ => []
  | child parent before _ _ => before.length :: parent.path

/-- The elements before the node under its parent, the nearest first. -/
def elementsBefore : Spot → List Spot
  | root _ => []
  | child parent before node after => go parent before (node :: after)
where
  go (parent : Spot) : List Node → List Node → List Spot
    | [], _ => []
    | node :: before, after =>
      let others := go parent before (node :: after)
      if node.isElement then child parent before node after :: others else others

/-- The elements behind the node under its parent, the nearest first. -/
def elementsAfter : Spot → List Spot
  | root _ => []
  | child parent before node after => go parent (node :: before) after
where
  go (parent : Spot) : List Node → List Node → List Spot
    | _, [] => []
    | before, node :: after =>
      let others := go parent (node :: before) after
      if node.isElement then child parent before node after :: others else others

mutual

/-- The elements within a node at a spot, each before those within it. -/
def within (spot : Spot) : Node → List Spot
  | .element _ _ children => withinAll spot [] children
  | _ => []

/-- The elements among some children of a spot and within them. `before` are the children in front
of them, the nearest first. -/
def withinAll (parent : Spot) (before : List Node) : List Node → List Spot
  | [] => []
  | node :: after =>
    let here := child parent before node after
    let inner := within here node
    (if node.isElement then here :: inner else inner) ++ withinAll parent (node :: before) after

end

def descendants (spot : Spot) : List Spot := within spot spot.node

def elements (spot : Spot) : List Spot :=
  if spot.node.isElement then spot :: spot.descendants else spot.descendants

def text (spot : Spot) : String := spot.node.trimmedText

def markup (spot : Spot) : String := spot.node.innerMarkup

def attribute? (spot : Spot) (key : String) : Option String := spot.node.attribute? key

end Spot

end Quarry.Page
