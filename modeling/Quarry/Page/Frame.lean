import Quarry.Page.Node
import Quarry.Page.Token

/-!
Open elements: those whose end has not been seen, from the innermost to the root. An element
becomes a child of the one around it when it is closed.
-/

namespace Quarry.Page

/-- Where an element goes when it is closed: into the element around it, in front of the table
around it, or to the end of the head. -/
inductive Placement where
  | inside | beforeTable | toHead
deriving DecidableEq, Repr

/-- An open element, with its children so far, the last one first. An element that is `ended` has
ended and only waits for those within it. -/
structure Frame where
  id : Nat
  name : String
  attributes : List (String × String)
  children : List Node
  placement : Placement
  ended : Bool
deriving Repr

namespace Frame

def node (f : Frame) : Node := .element f.name f.attributes f.children.reverse

def add (f : Frame) (child : Node) : Frame := { f with children := child :: f.children }

/-- Adds a text, which continues one that is there. -/
def addText (f : Frame) (s : String) : Frame :=
  match f.children with
  | .text before :: rest => { f with children := .text (before ++ s) :: rest }
  | children => { f with children := .text s :: children }

def addToHead (f : Frame) (child : Node) : Frame :=
  { f with children := f.children.map fun
    | .element "head" attributes children => .element "head" attributes (children ++ [child])
    | node => node }

/-- Changes the frame that a placement leads to, seen from within the given frames. -/
def place (change toHead : Frame → Frame) : Placement → List Frame → List Frame
  | _, [] => []
  | .inside, f :: rest => change f :: rest
  | .beforeTable, f :: rest =>
    match rest with
    | [] => [change f]
    | around :: outer =>
      if f.name = "table" then f :: change around :: outer
      else f :: place change toHead .beforeTable rest
  | .toHead, frames => frames.dropLast ++ frames.getLast?.toList.map toHead

/-- Closes the innermost elements that have ended. The root stays open. The bound is the number of
frames. -/
def leaveOver : Nat → List Frame → List Frame
  | bound + 1, f :: around :: outer =>
    if f.ended then
      leaveOver bound (place (·.add f.node) (·.addToHead f.node) f.placement (around :: outer))
    else f :: around :: outer
  | _, frames => frames

/-- Closes the innermost element, and those around it that have ended. The root stays open. -/
def leave : List Frame → List Frame
  | f :: around :: outer =>
    leaveOver (outer.length + 1)
      (place (·.add f.node) (·.addToHead f.node) f.placement (around :: outer))
  | frames => frames

def leaveWhile (p : Frame → Bool) : Nat → List Frame → List Frame
  | bound + 1, f :: outer =>
    if p f then leaveWhile p bound (leave (f :: outer)) else f :: outer
  | _, frames => frames

def leaveThrough (p : Frame → Bool) (frames : List Frame) : List Frame :=
  leave (leaveWhile (!p ·) frames.length frames)

/-! ## 1. Scopes -/

inductive Scope where
  | element | listItem | button | table | option
deriving DecidableEq, Repr

def Scope.stopsAt (name : String) : Scope → Bool
  | element => general.contains name
  | listItem => name = "ol" || name = "ul" || general.contains name
  | button => name = "button" || general.contains name
  | table => name = "html" || name = "table" || name = "template"
  | option => name != "optgroup" && name != "option"
where
  general : List String :=
    ["applet", "caption", "html", "table", "td", "th", "marquee", "object", "template"]

def inScope (scope : Scope) (names : List String) : List Frame → Bool
  | [] => false
  | f :: outer =>
    if f.ended then inScope scope names outer
    else if names.contains f.name then true
    else if scope.stopsAt f.name then false
    else inScope scope names outer

end Frame

def endsByItself (name : String) : Bool :=
  ["dd", "dt", "li", "optgroup", "option", "p", "rb", "rp", "rt", "rtc"].contains name

/-- The elements of the layout of a page, as opposed to those within its lines. -/
def isSpecial (name : String) : Bool :=
  ["address", "applet", "area", "article", "aside", "base", "basefont", "bgsound", "blockquote",
    "body", "br", "button", "caption", "center", "col", "colgroup", "dd", "details", "dir", "div",
    "dl", "dt", "embed", "fieldset", "figcaption", "figure", "footer", "form", "frame",
    "frameset", "h1", "h2", "h3", "h4", "h5", "h6", "head", "header", "hgroup", "hr", "html",
    "iframe", "img", "input", "keygen", "li", "link", "listing", "main", "marquee", "menu",
    "meta", "nav", "noembed", "noframes", "noscript", "object", "ol", "p", "param", "plaintext",
    "pre", "script", "search", "section", "select", "source", "style", "summary", "table",
    "tbody", "td", "template", "textarea", "tfoot", "th", "thead", "title", "tr", "track", "ul",
    "wbr", "xmp"].contains name

end Quarry.Page
