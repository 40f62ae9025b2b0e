import Quarry.Pattern.Matcher

/-!
Templates for replacing matches. A dollar sign refers to a group by its number or its name; the
number is the longest run of digits, whatever comes after it.
-/

namespace Quarry

inductive GroupName where
  | number (n : Nat)
  | name (text : String)
deriving DecidableEq, Repr

inductive TemplatePart where
  | char (c : Char)
  | group (name : GroupName)
deriving DecidableEq, Repr

namespace Template

/-- A reference by the text between its braces or after its dollar sign: a number in digits, with
or without a plus sign, or else a name. -/
def groupName (text : List Char) : GroupName :=
  let digits := if text.head? = some '+' then text.tail else text
  if !digits.isEmpty && digits.all Char.isDigit then
    .number (digits.foldl (fun n c => 10 * n + (c.toNat - '0'.toNat)) 0)
  else .name (.ofList text)

def isNameChar (c : Char) : Bool := c.isAlphanum || c = '_'

/-- Reads what a dollar sign begins, given the characters after it: a second one makes a plain
dollar sign, braces hold any name, and without them a name is as long as it can be. Otherwise the
sign stands for itself. -/
def dollar (rest : List Char) : TemplatePart × List Char :=
  match rest with
  | '$' :: rest => (.char '$', rest)
  | '{' :: inner =>
    match inner.dropWhile (· != '}') with
    | _ :: after => (.group (groupName (inner.takeWhile (· != '}'))), after)
    | [] => (.char '$', rest)
  | _ =>
    match rest.takeWhile isNameChar with
    | [] => (.char '$', rest)
    | name => (.group (groupName name), rest.dropWhile isNameChar)

/-- Reads a template. The bound is never reached: each part takes a character. -/
def partsFrom : Nat → List Char → List TemplatePart
  | 0, _ => []
  | _ + 1, [] => []
  | bound + 1, '$' :: rest =>
    let (part, rest) := dollar rest
    part :: partsFrom bound rest
  | bound + 1, c :: rest => .char c :: partsFrom bound rest

def parts (template : List Char) : List TemplatePart := partsFrom template.length template

/-- Puts braces around the digits after each dollar sign, so that the number ends where they
do. The bound is never reached. -/
def braceFrom : Nat → List Char → List Char
  | 0, _ => []
  | _ + 1, [] => []
  | bound + 1, '$' :: '$' :: rest => '$' :: '$' :: braceFrom bound rest
  | bound + 1, '$' :: rest =>
    match rest.takeWhile Char.isDigit with
    | [] => '$' :: braceFrom bound rest
    | digits => '$' :: '{' :: digits ++ '}' :: braceFrom bound (rest.dropWhile Char.isDigit)
  | bound + 1, c :: rest => c :: braceFrom bound rest

def brace (template : List Char) : List Char := braceFrom template.length template

end Template

namespace Matcher

/-- The text of the group that a reference names. An unknown group has no text. -/
def groupText (m : Matcher) (o : Occurrence) : GroupName → List Char
  | .number n => o.group n
  | .name text =>
    match m.names.find? (·.1 = text) with
    | some (_, n) => o.group n
    | none => []

def expand (m : Matcher) (o : Occurrence) (parts : List TemplatePart) : List Char :=
  parts.flatMap fun
    | .char c => [c]
    | .group name => m.groupText o name

def replaceAll? (m : Matcher) (text template : String) : Option String :=
  match m.occurrences text with
  | ([], _) => none
  | (found, tail) =>
    let parts := Template.parts (Template.brace template.toList)
    some (.ofList (found.flatMap (fun o => o.skipped ++ m.expand o parts) ++ tail))

end Matcher

end Quarry
