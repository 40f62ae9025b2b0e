import Quarry.Page.Frame
import Quarry.Page.RawText

/-!
Drafts: pages that are being read. A draft knows its open elements, what kind of content it
expects, and the formatting that goes on in the next paragraph.
-/

namespace Quarry.Page

inductive Mode where
  | start | beforeHtml | beforeHead | inHead | afterHead | inBody | rawText
  | inTable | inCaption | inColumnGroup | inTableBody | inRow | inCell
  | inSelect | inSelectInTable | afterBody | afterPage
deriving DecidableEq, Repr

/-- An element of formatting that goes on after its paragraph, or the border of a cell, a caption
or an object, behind which it does not. -/
inductive Formatting where
  | border
  | element (id : Nat) (tag : Tag)
deriving Repr

/-- A page that is being read. The last formatting comes first, and `behind` holds the comments
behind the body, the last one first. A page is `loose` unless it declares its type: a table in it
does not end a paragraph. -/
structure Draft where
  opened : List Frame := []
  mode : Mode := .start
  resume : Mode := .inBody
  loose : Bool := true
  formatting : List Formatting := []
  misplaced : Bool := false
  hasForm : Bool := false
  skipLine : Bool := false
  raw : Option (RawKind × String) := none
  nextId : Nat := 0
  behind : List Node := []

namespace Draft

open Markup

/-! ## 1. Open elements -/

def current (d : Draft) : String := (d.opened.head?.map Frame.name).getD ""

def isOpen (d : Draft) (name : String) : Bool := d.opened.any fun f => !f.ended && f.name = name

def has (d : Draft) (scope : Frame.Scope) (name : String) : Bool :=
  Frame.inScope scope [name] d.opened

def leave (d : Draft) : Draft := { d with opened := Frame.leave d.opened }

def leaveWhile (p : String → Bool) (d : Draft) : Draft :=
  { d with opened := Frame.leaveWhile (fun f => p f.name) d.opened.length d.opened }

def leaveThrough (names : List String) (d : Draft) : Draft :=
  { d with opened := Frame.leaveThrough (fun f => !f.ended && names.contains f.name) d.opened }

/-- Closes the elements that end by themselves, but not those with the given name. -/
def leaveImplied (d : Draft) (but : String := "") : Draft :=
  d.leaveWhile fun name => endsByItself name && name != but

def leaveParagraph (d : Draft) : Draft :=
  if d.has .button "p" then (d.leaveImplied "p").leaveThrough ["p"] else d

/-- Ends the element with the number, which stays open for what is open within it. -/
def markOver (d : Draft) (id : Nat) : Draft :=
  let mark (f : Frame) : Frame := if f.id = id then { f with ended := true } else f
  { d with opened := Frame.leaveOver d.opened.length (d.opened.map mark) }

/-! ## 2. Adding -/

/-- Whether content that is misplaced in a table is about to be added right in it. -/
def isOutsideCell (d : Draft) : Bool :=
  d.misplaced && ["table", "tbody", "tfoot", "thead", "tr"].contains d.current

def placement (d : Draft) : Placement := if d.isOutsideCell then .beforeTable else .inside

def addText (d : Draft) (cs : List Char) : Draft :=
  if cs.isEmpty then d
  else
    let s := String.ofList cs
    { d with opened := Frame.place (·.addText s) (·.addText s) d.placement d.opened }

def addComment (d : Draft) (s : String) : Draft :=
  let node := Node.comment s
  { d with opened := Frame.place (·.add node) (·.add node) d.placement d.opened }

def openAt (d : Draft) (placement : Placement) (tag : Tag) : Draft :=
  let f : Frame := ⟨d.nextId, tag.name, tag.attributes, [], placement, false⟩
  { d with opened := f :: d.opened, nextId := d.nextId + 1 }

def enter (d : Draft) (tag : Tag) : Draft := d.openAt d.placement tag

def enterImplied (d : Draft) (name : String) : Draft := d.enter ⟨name, [], false⟩

def addEmpty (d : Draft) (tag : Tag) : Draft := (d.enter tag).leave

def enterRaw (d : Draft) (placement : Placement) (kind : RawKind) (tag : Tag) : Draft :=
  { d.openAt placement tag with raw := some (kind, tag.name), resume := d.mode, mode := .rawText }

/-- Adds attributes that are not there yet to the open elements with a name. -/
def addAttributes (d : Draft) (name : String) (attributes : List (String × String)) : Draft :=
  let add (f : Frame) : Frame :=
    let fresh := attributes.filter fun a => !(f.attributes.any (·.1 = a.1))
    if f.name = name then { f with attributes := f.attributes ++ fresh } else f
  { d with opened := d.opened.map add }

def switchTo (d : Draft) (mode : Mode) : Draft := { d with mode }

def resetMode (d : Draft) : Draft :=
  let inTable := d.isOpen "table"
  let mode? (f : Frame) : Option Mode :=
    if f.ended then none
    else match f.name with
    | "select" => some (if inTable then .inSelectInTable else .inSelect)
    | "td" | "th" => some .inCell
    | "tr" => some .inRow
    | "tbody" | "thead" | "tfoot" => some .inTableBody
    | "caption" => some .inCaption
    | "colgroup" => some .inColumnGroup
    | "table" => some .inTable
    | "head" => some .inHead
    | "body" => some .inBody
    | "html" => some .afterHead
    | _ => none
  d.switchTo ((d.opened.findSome? mode?).getD .inBody)

end Draft

end Quarry.Page
