import Quarry.Json.Number

/-!
Reading JSON documents. Containers nest at most 127 deep. The bounds that the readers take are never
reached on a text with fewer characters: each round takes a character.
-/

namespace Quarry.Json

abbrev Reader (α : Type) := List Char → Option (α × List Char)

def skipBlanks (cs : List Char) : List Char :=
  cs.dropWhile fun c => c = ' ' || c = '\n' || c = '\t' || c = '\r'

def hexValue? (c : Char) : Option Nat :=
  if '0' ≤ c ∧ c ≤ '9' then some (c.toNat - '0'.toNat)
  else if 'a' ≤ c ∧ c ≤ 'f' then some (c.toNat - 'a'.toNat + 10)
  else if 'A' ≤ c ∧ c ≤ 'F' then some (c.toNat - 'A'.toNat + 10)
  else none

def readHex4? : Reader Nat
  | a :: b :: c :: d :: rest => do
    let high := 16 * (← hexValue? a) + (← hexValue? b)
    some (256 * high + 16 * (← hexValue? c) + (← hexValue? d), rest)
  | _ => none

/-- Reads an escape after its `\u`. A code point above the first plane takes two escapes, and
half of such a pair alone is none. -/
def readCodePoint? : Reader Char := fun cs => do
  let (n, rest) ← readHex4? cs
  if 0xdc00 ≤ n ∧ n < 0xe000 then none
  if 0xd800 ≤ n ∧ n < 0xdc00 then
    match rest with
    | '\\' :: 'u' :: rest =>
      let (m, rest) ← readHex4? rest
      if m < 0xdc00 ∨ 0xe000 ≤ m then none
      some (Char.ofNat (0x10000 + (n - 0xd800) * 0x400 + (m - 0xdc00)), rest)
    | _ => none
  else some (Char.ofNat n, rest)

def shortEscape? : Char → Option Char
  | '"' => some '"'
  | '\\' => some '\\'
  | '/' => some '/'
  | 'b' => some '\x08'
  | 'f' => some '\x0c'
  | 'n' => some '\n'
  | 'r' => some '\r'
  | 't' => some '\t'
  | _ => none

def readChars? : Nat → Reader (List Char)
  | 0, _ => none
  | _ + 1, [] => none
  | _ + 1, '"' :: rest => some ([], rest)
  | bound + 1, '\\' :: 'u' :: rest => do
    let (c, rest) ← readCodePoint? rest
    let (cs, rest) ← readChars? bound rest
    some (c :: cs, rest)
  | bound + 1, '\\' :: e :: rest => do
    let c ← shortEscape? e
    let (cs, rest) ← readChars? bound rest
    some (c :: cs, rest)
  | bound + 1, c :: rest => do
    if c.toNat < 0x20 ∨ c = '\\' then none
    let (cs, rest) ← readChars? bound rest
    some (c :: cs, rest)

def readString? (bound : Nat) : Reader String := fun cs =>
  (readChars? bound cs).map fun (text, rest) => (String.ofList text, rest)

def readItems? {α : Type} (item : Reader α) (close : Char) : Nat → Reader (List α)
  | 0, _ => none
  | bound + 1, cs => do
    let (x, rest) ← item (skipBlanks cs)
    match skipBlanks rest with
    | c :: rest =>
      if c = close then some ([x], rest)
      else if c = ',' then
        let (xs, rest) ← readItems? item close bound rest
        some (x :: xs, rest)
      else none
    | [] => none

def readBracketed? {α : Type} (bound : Nat) (item : Reader α) (close : Char) :
    Reader (List α) := fun cs =>
  match skipBlanks cs with
  | c :: rest => if c = close then some ([], rest) else readItems? item close bound cs
  | [] => none

def readMember? (bound : Nat) (value : Reader Json) : Reader (String × Json)
  | '"' :: cs => do
    let (key, rest) ← readString? bound cs
    match skipBlanks rest with
    | ':' :: rest =>
      let (x, rest) ← value rest
      some ((key, x), rest)
    | _ => none
  | _ => none

def dropWord? (word : List Char) (cs : List Char) : Option (List Char) :=
  if word.isPrefixOf cs then some (cs.drop word.length) else none

/-- Reads a document whose containers nest at most as deep as the number says. -/
def readValue? (bound : Nat) : Nat → Reader Json
  | depth, cs =>
    match skipBlanks cs with
    | 'n' :: rest => (dropWord? "ull".toList rest).map fun rest => (null, rest)
    | 't' :: rest => (dropWord? "rue".toList rest).map fun rest => (boolean true, rest)
    | 'f' :: rest => (dropWord? "alse".toList rest).map fun rest => (boolean false, rest)
    | '"' :: rest => (readString? bound rest).map fun (s, rest) => (string s, rest)
    | '[' :: rest =>
      match depth with
      | 0 => none
      | depth + 1 =>
        (readBracketed? bound (readValue? bound depth) ']' rest).map
          fun (items, rest) => (array items, rest)
    | '{' :: rest =>
      match depth with
      | 0 => none
      | depth + 1 =>
        (readBracketed? bound (readMember? bound (readValue? bound depth)) '}' rest).map
          fun (members, rest) => (object (sortMembers members), rest)
    | cs => (readNumber? cs).map fun (n, rest) => (number n, rest)

def maxDepth : Nat := 127

def parse? (s : String) : Option Json := do
  let (document, rest) ← readValue? (s.length + 1) maxDepth s.toList
  if (skipBlanks rest).isEmpty then some document else none

end Quarry.Json
