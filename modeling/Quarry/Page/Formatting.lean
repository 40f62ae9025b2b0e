import Quarry.Page.Draft

/-!
Formatting that goes on: where a paragraph ends within an element of formatting, the element is
opened again in the next one; and where such an element ends around a part of the layout, the part
keeps a copy of it.
-/

namespace Quarry.Page.Draft

def isFor (id : Nat) : Formatting → Bool
  | .element other _ => other = id
  | .border => false

def isOpenId (d : Draft) (id : Nat) : Bool := d.opened.any fun f => !f.ended && f.id = id

def near (d : Draft) : List Formatting :=
  d.formatting.takeWhile fun
    | .border => false
    | .element _ _ => true

/-- Adds an element to the formatting that goes on. There are at most three alike. -/
def addFormatting (d : Draft) (tag : Tag) : Draft :=
  let isAlike : Formatting → Bool
    | .element _ other => other.name = tag.name && other.attributes = tag.attributes
    | .border => false
  let alike := d.near.filter isAlike
  let kept :=
    match (alike.drop 2).head? with
    | some (.element id _) => d.formatting.filter (!isFor id ·)
    | _ => d.formatting
  match d.opened with
  | f :: _ => { d with formatting := .element f.id tag :: kept }
  | [] => d

def enterFormatting (d : Draft) (tag : Tag) : Draft := (d.enter tag).addFormatting tag

/-- Opens the elements of formatting again that were closed with what was around them. -/
def resumeFormatting (d : Draft) : Draft :=
  let isClosed : Formatting → Bool
    | .border => false
    | .element id _ => !d.isOpenId id
  let closed := d.formatting.takeWhile isClosed
  let d := { d with formatting := d.formatting.dropWhile isClosed }
  closed.reverse.foldl (fun d entry =>
    match entry with
    | .border => d
    | .element _ tag =>
      let id := d.nextId
      let d := d.enter tag
      { d with formatting := .element id tag :: d.formatting }) d

def addBorder (d : Draft) : Draft := { d with formatting := .border :: d.formatting }

def dropToBorder (d : Draft) : Draft :=
  { d with formatting := (d.formatting.drop d.near.length).tail }

/-- Ends an element that is not one of formatting: the innermost with the name, if no part of the
layout is in between. -/
def endOther (d : Draft) (name : String) : Draft :=
  let between := d.opened.takeWhile fun f => f.ended || f.name != name
  if d.isOpen name && !(between.any fun f => !f.ended && isSpecial f.name) then
    (d.leaveImplied name).leaveThrough [name]
  else d

/-- The state of splitting an element of formatting around a part of its content: the copies that
are made of the elements in between, the innermost first, the element that takes up the originals,
and the formatting that goes on. -/
structure Split where
  copies : List Frame
  inner : Option Node
  formatting : List Formatting
  moved : Option Nat
  nextId : Nat
  steps : Nat

/-- One element in between: a copy is made if its formatting goes on, and the original is
closed. From the fourth on the formatting ends. -/
def Split.step (s : Split) (f : Frame) : Split :=
  let closed := match s.inner with
    | some node => (f.add node).node
    | none => f.node
  let s := { s with inner := some closed, steps := s.steps + 1 }
  match s.formatting.find? (isFor f.id) with
  | some (.element _ tag) =>
    if s.steps > 3 then { s with formatting := s.formatting.filter (!isFor f.id ·) }
    else
      let copy : Frame := ⟨s.nextId, tag.name, tag.attributes, [], .inside, false⟩
      { s with
        copies := s.copies ++ [copy]
        formatting := s.formatting.map fun e => if isFor f.id e then .element copy.id tag else e
        moved := s.moved.or (some copy.id)
        nextId := s.nextId + 1 }
  | _ => s

/-- Splits the element of formatting `f` around the part `block` of the layout within it. `deep`
are the elements within the part, `between` those between the two, and `outer` those around both;
the innermost come first. -/
def splitAround (d : Draft) (tag : Tag) (deep : List Frame) (block : Frame)
    (between : List Frame) (f : Frame) (outer : List Frame) : Draft :=
  let s := between.foldl Split.step ⟨[], none, d.formatting, none, d.nextId, 0⟩
  let ended := match s.inner with
    | some node => f.add node
    | none => f
  let outer := Frame.place (·.add ended.node) (·.addToHead ended.node) f.placement outer
  let copy : Frame := ⟨s.nextId, f.name, f.attributes, block.children, .inside, false⟩
  let placement : Placement :=
    match outer.head? with
    | some around =>
      if ["table", "tbody", "tfoot", "thead", "tr"].contains around.name then .beforeTable
      else .inside
    | none => .inside
  let entry : Formatting := .element copy.id tag
  let formatting := match s.moved with
    | none => s.formatting.map fun e => if isFor f.id e then entry else e
    | some id =>
      (s.formatting.filter (!isFor f.id ·)).flatMap fun e =>
        if isFor id e then [entry, e] else [e]
  let chain := { block with children := [], placement := .inside } :: s.copies
  let chain := match chain.reverse with
    | last :: rest => (({ last with placement } : Frame) :: rest).reverse
    | [] => []
  { d with
    opened := deep ++ copy :: chain ++ outer
    formatting
    nextId := s.nextId + 1 }

/-- Ends an element of formatting, once for each part of the layout that it goes around, at most
so often. -/
def endFormattingFrom (name : String) : Nat → Draft → Draft
  | 0, d => d
  | rounds + 1, d =>
    let entry? := d.near.findSome? fun
      | .element id tag => if tag.name = name then some (id, tag) else none
      | .border => none
    match entry? with
    | none => d.endOther name
    | some (id, tag) =>
      let forget (d : Draft) : Draft :=
        { d with formatting := d.formatting.filter (!isFor id ·) }
      match d.opened.dropWhile (fun f => f.ended || f.id != id) with
      | [] => forget d
      | f :: outer =>
        let inner := d.opened.takeWhile fun f => f.ended || f.id != id
        if inner.any fun g => !g.ended && Frame.Scope.element.stopsAt g.name then d
        else
          let between := (inner.reverse.takeWhile fun g => !isSpecial g.name).reverse
          match (inner.reverse.dropWhile fun g => !isSpecial g.name) with
          | [] =>
            forget { d with opened := Frame.leaveThrough (·.id = id) d.opened }
          | block :: deep =>
            endFormattingFrom name rounds
              (d.splitAround tag deep.reverse block between f outer)

def endFormatting (d : Draft) (name : String) : Draft :=
  let isListed (f : Frame) : Bool := d.formatting.any (isFor f.id)
  match d.opened with
  | f :: _ =>
    if f.name = name && !isListed f then d.leave else endFormattingFrom name 8 d
  | [] => d

end Quarry.Page.Draft
