import Quarry.Page.NamedCharacter

/-!
The characters of markup, and the references that stand for a character.
-/

namespace Quarry.Page.Markup

/-! ## 1. Characters -/

def isSpace (c : Char) : Bool :=
  c = ' ' || c = '\t' || c = '\n' || c = '\x0c' || c = '\r'

/-- The characters with every line end written as a line feed. -/
def unifyLines : List Char → List Char
  | [] => []
  | '\r' :: '\n' :: rest => '\n' :: unifyLines rest
  | '\r' :: rest => '\n' :: unifyLines rest
  | c :: rest => c :: unifyLines rest

/-- A text in which the null character is replaced. -/
def clean (cs : List Char) : String :=
  .ofList (cs.map fun c => if c = '\x00' then '\ufffd' else c)

def lowered (cs : List Char) : String := clean (cs.map Char.toLower)

/-- Whether a text starts with some characters in lower case, whatever its own case is. -/
def startsWith (expected cs : List Char) : Bool :=
  (cs.take expected.length).map Char.toLower == expected

/-! ## 2. Character references -/

/-- The characters that the references 128 to 159 stand for. -/
def upperControls : List Nat :=
  [0x20ac, 0x81, 0x201a, 0x192, 0x201e, 0x2026, 0x2020, 0x2021, 0x2c6, 0x2030, 0x160, 0x2039,
    0x152, 0x8d, 0x17d, 0x8f, 0x90, 0x2018, 0x2019, 0x201c, 0x201d, 0x2022, 0x2013, 0x2014,
    0x2dc, 0x2122, 0x161, 0x203a, 0x153, 0x9d, 0x17e, 0x178]

/-- The character with a number. A number without a character gives the replacement. -/
def numbered (n : Nat) : Char :=
  if n = 0 ∨ !n.isValidChar then '\ufffd'
  else if 0x80 ≤ n ∧ n < 0xa0 then Char.ofNat (upperControls.getD (n - 0x80) n)
  else Char.ofNat n

def digitValue (c : Char) : Nat :=
  if c.isDigit then c.toNat - '0'.toNat else c.toLower.toNat - 'a'.toNat + 10

/-- Reads a number in a base and the semicolon after it, which may be missing. -/
def numberReference? (base : Nat) (isDigit : Char → Bool) (cs : List Char) :
    Option (List Char × List Char) :=
  match cs.takeWhile isDigit with
  | [] => none
  | digits =>
    let n := digits.foldl (fun n c => min (base * n + digitValue c) 0x110000) 0
    let rest := cs.dropWhile isDigit
    some ([numbered n], if rest.head? = some ';' then rest.tail else rest)

def isHexDigit (c : Char) : Bool :=
  c.isDigit || ('a' ≤ c && c ≤ 'f') || ('A' ≤ c && c ≤ 'F')

/-- Reads a name. It ends with a semicolon, or it is the longest of the names that need none; in
an attribute such a name does not count where it goes on as a word or with an equals sign. -/
def namedReference? (inAttribute : Bool) (cs : List Char) : Option (List Char × List Char) :=
  let word := (cs.take (longestName + 1)).takeWhile Char.isAlphanum
  let rest := cs.drop word.length
  let closed :=
    if rest.head? = some ';' then namedCharacters[String.ofList word]? else none
  match closed with
  | some text => some (text.toList, rest.tail)
  | none =>
    let lengths := (List.range (word.length + 1)).reverse
    (lengths.findSome? fun n => bareNames[String.ofList (word.take n)]?.map fun t => (n, t)).bind
      fun (n, text) =>
        let rest := cs.drop n
        if inAttribute && rest.head?.any (fun c => c = '=' || c.isAlphanum) then none
        else some (text.toList, rest)

def reference? (inAttribute : Bool) : List Char → Option (List Char × List Char)
  | '#' :: 'x' :: rest => numberReference? 16 isHexDigit rest
  | '#' :: 'X' :: rest => numberReference? 16 isHexDigit rest
  | '#' :: rest => numberReference? 10 Char.isDigit rest
  | rest => namedReference? inAttribute rest

/-- Replaces the references in a text. The bound is never reached: each round takes a
character. -/
def decodeFrom (inAttribute : Bool) : Nat → List Char → List Char
  | 0, cs => cs
  | _ + 1, [] => []
  | bound + 1, '&' :: rest =>
    match reference? inAttribute rest with
    | some (text, rest) => text ++ decodeFrom inAttribute bound rest
    | none => '&' :: decodeFrom inAttribute bound rest
  | bound + 1, c :: rest => c :: decodeFrom inAttribute bound rest

def decode (inAttribute : Bool) (cs : List Char) : List Char :=
  decodeFrom inAttribute cs.length cs

end Quarry.Page.Markup
