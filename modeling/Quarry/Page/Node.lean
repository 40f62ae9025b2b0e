import Quarry.Text.Blank

/-!
The nodes of a page, their text and their markup.
-/

namespace Quarry.Page

/-- A node of a page. The attributes of an element have distinct names. -/
inductive Node where
  | element (name : String) (attributes : List (String × String)) (children : List Node)
  | text (content : String)
  | comment (content : String)
deriving Repr

namespace Node

def isElement : Node → Bool
  | element _ _ _ => true
  | _ => false

def isText : Node → Bool
  | text _ => true
  | _ => false

def name? : Node → Option String
  | element name _ _ => some name
  | _ => none

def children : Node → List Node
  | element _ _ children => children
  | _ => []

def attribute? (key : String) : Node → Option String
  | element _ attributes _ => attributes.lookup key
  | _ => none

/-! ## 1. Text -/

mutual

def content : Node → String
  | element _ _ children => contents children
  | text content => content
  | comment _ => ""

def contents : List Node → String
  | [] => ""
  | node :: rest => content node ++ contents rest

end

/-! ## 2. Markup -/

def isVoid (name : String) : Bool :=
  ["area", "base", "basefont", "bgsound", "br", "col", "embed", "frame", "hr", "img", "input",
    "keygen", "link", "meta", "param", "source", "track", "wbr"].contains name

def isVerbatim (name : String) : Bool :=
  ["style", "script", "xmp", "iframe", "noembed", "noframes", "plaintext"].contains name

/-- A text with references for the characters that have a meaning in markup. A quotation mark has
one in an attribute only, and angle brackets have one outside only. -/
def escape (inAttribute : Bool) (s : String) : String :=
  String.join (s.toList.map fun c =>
    if c = '&' then "&amp;"
    else if c = '\u00a0' then "&nbsp;"
    else if c = '"' && inAttribute then "&quot;"
    else if c = '<' && !inAttribute then "&lt;"
    else if c = '>' && !inAttribute then "&gt;"
    else c.toString)

def attributeMarkup (attributes : List (String × String)) : String :=
  String.join (attributes.map fun a => " " ++ a.1 ++ "=\"" ++ escape true a.2 ++ "\"")

mutual

/-- The markup of a node in an element whose text is verbatim or not. -/
def markup (verbatim : Bool) : Node → String
  | element name attributes children =>
    let start := "<" ++ name ++ attributeMarkup attributes ++ ">"
    if isVoid name then start
    else start ++ markups (isVerbatim name) children ++ "</" ++ name ++ ">"
  | text content => if verbatim then content else escape false content
  | comment content => "<!--" ++ content ++ "-->"

def markups (verbatim : Bool) : List Node → String
  | [] => ""
  | node :: rest => markup verbatim node ++ markups verbatim rest

end

/-- The markup within a node. Its own texts are escaped whatever its name is. -/
def innerMarkup (node : Node) : String := markups false node.children

def trimmedText (node : Node) : String := Text.trim node.content

end Node

end Quarry.Page
