import Quarry.Page.Reference

/-!
Tokens of markup: tags, texts, comments and document types, and how they are read.
-/

namespace Quarry.Page

structure Tag where
  name : String
  attributes : List (String × String)
  selfClosing : Bool
deriving Repr

inductive Token where
  | doctype (name : String)
  | start (tag : Tag)
  | stop (name : String)
  | comment (text : String)
  | text (chars : List Char)
deriving Repr

namespace Markup

/-! ## 1. Tags -/

def attributeValue? (cs : List Char) : Option (List Char × List Char) :=
  let quoted (q : Char) (cs : List Char) : Option (List Char × List Char) :=
    match cs.dropWhile (· != q) with
    | _ :: rest => some (cs.takeWhile (· != q), rest)
    | [] => none
  match cs.dropWhile isSpace with
  | '"' :: rest => quoted '"' rest
  | '\'' :: rest => quoted '\'' rest
  | rest =>
    let isValue (c : Char) : Bool := !isSpace c && c != '>'
    some (rest.takeWhile isValue, rest.dropWhile isValue)

/-- Reads attributes up to the end of a tag. It gives them in order, says whether the tag closes
itself, and fails where the tag has no end. The bound is never reached. -/
def attributes? : Nat → List Char → Option (List (String × String) × Bool × List Char)
  | 0, _ => none
  | bound + 1, cs =>
    match cs.dropWhile isSpace with
    | [] => none
    | '>' :: rest => some ([], false, rest)
    | '/' :: '>' :: rest => some ([], true, rest)
    | '/' :: rest => attributes? bound rest
    | first :: rest => do
      let isName (c : Char) : Bool := !isSpace c && c != '/' && c != '>' && c != '='
      let name := lowered (first :: rest.takeWhile isName)
      let (value, rest) ←
        match (rest.dropWhile isName).dropWhile isSpace with
        | '=' :: rest => attributeValue? rest
        | rest => some ([], rest)
      let (others, selfClosing, rest) ← attributes? bound rest
      some ((name, clean (decode true value)) :: others.filter (·.1 != name), selfClosing, rest)

def tag? (cs : List Char) : Option (Tag × List Char) := do
  let isName (c : Char) : Bool := !isSpace c && c != '/' && c != '>'
  let (attributes, selfClosing, rest) ← attributes? (cs.length + 1) (cs.dropWhile isName)
  some (⟨lowered (cs.takeWhile isName), attributes, selfClosing⟩, rest)

/-! ## 2. Comments -/

def withoutOpenEnd (text : List Char) : List Char :=
  match text.reverse with
  | '!' :: '-' :: '-' :: rest => rest.reverse
  | '-' :: '-' :: rest => rest.reverse
  | '-' :: rest => rest.reverse
  | _ => text

def commentText : List Char → List Char → List Char × List Char
  | read, [] => (withoutOpenEnd read.reverse, [])
  | read, '-' :: '-' :: '>' :: rest => (read.reverse, rest)
  | read, '-' :: '-' :: '!' :: '>' :: rest => (read.reverse, rest)
  | read, c :: rest => commentText (c :: read) rest

def comment (cs : List Char) : Token × List Char :=
  match cs with
  | '>' :: rest => (.comment "", rest)
  | '-' :: '>' :: rest => (.comment "", rest)
  | _ =>
    let (text, rest) := commentText [] cs
    (.comment (clean text), rest)

/-- Reads up to the end of what looks like a tag and is none: it is taken for a comment. -/
def falseComment (cs : List Char) : Token × List Char :=
  (.comment (clean (cs.takeWhile (· != '>'))), (cs.dropWhile (· != '>')).tail)

def documentType (cs : List Char) : Token × List Char :=
  let inner := (cs.takeWhile (· != '>')).dropWhile isSpace
  (.doctype (lowered (inner.takeWhile (!isSpace ·))), (cs.dropWhile (· != '>')).tail)

/-! ## 3. Tokens -/

def opensMarkup : List Char → Bool
  | '/' :: _ :: _ => true
  | '!' :: _ => true
  | '?' :: _ => true
  | c :: _ => c.isAlpha
  | [] => false

def splitText : List Char → List Char → List Char × List Char
  | read, [] => (read.reverse, [])
  | read, c :: rest =>
    if c = '<' && opensMarkup rest then (read.reverse, c :: rest)
    else splitText (c :: read) rest

/-- Reads the token at the start of a page that is not empty. A tag without an end is dropped
with all that follows. -/
def next : List Char → Option Token × List Char
  | '<' :: '/' :: '>' :: rest => (none, rest)
  | '<' :: '/' :: c :: rest =>
    if c.isAlpha then
      match tag? (c :: rest) with
      | some (tag, rest) => (some (.stop tag.name), rest)
      | none => (none, [])
    else
      let (token, rest) := falseComment (c :: rest)
      (some token, rest)
  | '<' :: '!' :: '-' :: '-' :: rest =>
    let (token, rest) := comment rest
    (some token, rest)
  | '<' :: '!' :: rest =>
    let (token, rest) :=
      if startsWith "doctype".toList rest then documentType (rest.drop 7) else falseComment rest
    (some token, rest)
  | '<' :: '?' :: rest =>
    let (token, rest) := falseComment ('?' :: rest)
    (some token, rest)
  | cs =>
    match splitText [] cs with
    | ([], rest) =>
      match tag? rest.tail with
      | some (tag, rest) => (some (.start tag), rest)
      | none => (none, [])
    | (text, rest) => (some (.text ((decode false text).filter (· != '\x00'))), rest)

end Markup

end Quarry.Page
