/-!
Tokens of selectors: names, strings, numbers and signs, with their escapes and comments.
-/

namespace Quarry.Selector

/-- A token. Numbers are whole if they are written without a point and an exponent. -/
inductive Token where
  | ident (name : String)
  | function (name : String)
  | keyword (name : String)
  | hash (name : String) (isIdent : Bool)
  | string (text : String)
  | badString
  | number (hasSign : Bool) (whole : Option Int)
  | dimension (whole : Option Int) (unit : String)
  | percentage
  | sign (c : Char)
  | comparison (c : Char)
  | space
  | opening (c : Char)
  | closing (c : Char)
  | arrow
deriving DecidableEq, Repr

namespace Token

/-! ## 1. Names -/

def isSpace (c : Char) : Bool :=
  c = ' ' || c = '\t' || c = '\n' || c = '\x0c' || c = '\r'

def isLineEnd (c : Char) : Bool := c = '\n' || c = '\x0c' || c = '\r'

def isNameStart (c : Char) : Bool := c.isAlpha || c = '_' || c = '\x00' || 0x80 ≤ c.toNat

def isEscape : List Char → Bool
  | c :: _ => !isLineEnd c
  | [] => true

def startsName : List Char → Bool
  | '-' :: '\\' :: rest => isEscape rest
  | '-' :: c :: _ => isNameStart c || c = '-'
  | '-' :: [] => false
  | '\\' :: rest => isEscape rest
  | c :: _ => isNameStart c
  | [] => false

def hexDigit? (c : Char) : Option Nat :=
  if '0' ≤ c ∧ c ≤ '9' then some (c.toNat - '0'.toNat)
  else if 'a' ≤ c ∧ c ≤ 'f' then some (c.toNat - 'a'.toNat + 10)
  else if 'A' ≤ c ∧ c ≤ 'F' then some (c.toNat - 'A'.toNat + 10)
  else none

/-- Drops one white space, where a carriage return and a line feed are one. -/
def dropOneSpace : List Char → List Char
  | '\r' :: '\n' :: rest => rest
  | c :: rest => if isSpace c then rest else c :: rest
  | [] => []

/-- Reads an escape after its backslash: up to six hexadecimal digits and a white space, or any
character. -/
def escape (cs : List Char) : Char × List Char :=
  match ((cs.take 6).takeWhile fun c => (hexDigit? c).isSome) with
  | [] =>
    match cs with
    | [] => ('\ufffd', [])
    | c :: rest => (if c = '\x00' then '\ufffd' else c, rest)
  | digits =>
    let n := digits.foldl (fun n c => 16 * n + (hexDigit? c).getD 0) 0
    (if n = 0 ∨ !n.isValidChar then '\ufffd' else Char.ofNat n,
      dropOneSpace (cs.drop digits.length))

def nameFrom : Nat → List Char → List Char × List Char
  | 0, cs => ([], cs)
  | bound + 1, '\\' :: rest =>
    if isEscape rest then
      let (c, rest) := escape rest
      let (name, rest) := nameFrom bound rest
      (c :: name, rest)
    else ([], '\\' :: rest)
  | bound + 1, c :: rest =>
    if isNameStart c || c.isDigit || c = '-' then
      let (name, rest) := nameFrom bound rest
      ((if c = '\x00' then '\ufffd' else c) :: name, rest)
    else ([], c :: rest)
  | _ + 1, [] => ([], [])

def name (cs : List Char) : String × List Char :=
  let (name, rest) := nameFrom (cs.length + 1) cs
  (.ofList name, rest)

/-! ## 2. Strings, numbers and comments -/

/-- Reads a string after its opening quote. It ends with the quote or the text; a line end makes
it bad. The bound is never reached. -/
def stringFrom (quote : Char) : Nat → List Char → Option (List Char) × List Char
  | 0, cs => (none, cs)
  | _ + 1, [] => (some [], [])
  | bound + 1, '\\' :: rest =>
    match rest with
    | [] => (some [], [])
    | '\r' :: '\n' :: rest => stringFrom quote bound rest
    | c :: after =>
      if isLineEnd c then stringFrom quote bound after
      else
        let (c, rest) := escape (c :: after)
        let (text, rest) := stringFrom quote bound rest
        (text.map (c :: ·), rest)
  | bound + 1, c :: rest =>
    if c = quote then (some [], rest)
    else if isLineEnd c then (none, c :: rest)
    else
      let (text, rest) := stringFrom quote bound rest
      (text.map ((if c = '\x00' then '\ufffd' else c) :: ·), rest)

def exponentLength (cs : List Char) : Nat :=
  match cs with
  | e :: rest =>
    if e = 'e' || e = 'E' then
      let sign := if rest.head? = some '+' || rest.head? = some '-' then 1 else 0
      let digits := ((rest.drop sign).takeWhile Char.isDigit).length
      if digits = 0 then 0 else 1 + sign + digits
    else 0
  | [] => 0

def numeric (cs : List Char) : Token × List Char :=
  let negative := cs.head? = some '-'
  let hasSign := negative || cs.head? = some '+'
  let body := if hasSign then cs.tail else cs
  let digits := body.takeWhile Char.isDigit
  let rest := body.dropWhile Char.isDigit
  let places := match rest with
    | '.' :: after => (after.takeWhile Char.isDigit).length
    | _ => 0
  let rest := if places = 0 then rest else rest.drop (places + 1)
  let exponent := exponentLength rest
  let rest := rest.drop exponent
  let n := digits.foldl (fun n c => 10 * n + (c.toNat - '0'.toNat)) 0
  let value : Int := if negative then max (-(n : Int)) (-2147483648) else min (n : Int) 2147483647
  let whole := if places = 0 && exponent = 0 then some value else none
  if rest.head? = some '%' then (.percentage, rest.tail)
  else if startsName rest then
    let (unit, rest) := name rest
    (.dimension whole unit, rest)
  else (.number hasSign whole, rest)

def dropComment : List Char → List Char
  | '*' :: '/' :: rest => rest
  | _ :: rest => dropComment rest
  | [] => []

/-! ## 3. Tokens -/

def startsNumber : List Char → Bool
  | s :: '.' :: c :: _ => if s = '+' || s = '-' then c.isDigit else s.isDigit
  | s :: c :: _ =>
    if s = '+' || s = '-' || s = '.' then c.isDigit else s.isDigit
  | [s] => s.isDigit
  | [] => false

def named (cs : List Char) : Token × List Char :=
  let (name, rest) := name cs
  if rest.head? = some '(' then (.function name, rest.tail) else (.ident name, rest)

def next : List Char → Option Token × List Char
  | [] => (none, [])
  | '/' :: '*' :: rest => (none, dropComment rest)
  | c :: rest =>
    if isSpace c then (some .space, rest.dropWhile isSpace)
    else if c = '"' || c = '\'' then
      match stringFrom c (rest.length + 1) rest with
      | (some text, rest) => (some (.string (.ofList text)), rest)
      | (none, rest) => (some .badString, rest)
    else if c = '#' then
      if startsName rest || rest.head?.any fun c => c.isDigit || c = '-' then
        let (n, after) := name rest
        (some (.hash n (startsName rest)), after)
      else (some (.sign '#'), rest)
    else if startsNumber (c :: rest) then
      let (token, rest) := numeric (c :: rest)
      (some token, rest)
    else if (c = '-' && rest.take 2 = ['-', '>']) then (some .arrow, rest.drop 2)
    else if (c = '<' && rest.take 3 = ['!', '-', '-']) then (some .arrow, rest.drop 3)
    else if startsName (c :: rest) then
      let (token, rest) := named (c :: rest)
      (some token, rest)
    else if c = '@' && startsName rest then
      let (n, rest) := name rest
      (some (.keyword n), rest)
    else if rest.head? = some '=' && ['~', '|', '^', '$', '*'].contains c then
      (some (.comparison c), rest.tail)
    else if ['(', '[', '\x7b'].contains c then (some (.opening c), rest)
    else if [')', ']', '\x7d'].contains c then (some (.closing c), rest)
    else (some (.sign c), rest)

def allFrom : Nat → List Char → List Token
  | 0, _ => []
  | _ + 1, [] => []
  | bound + 1, cs =>
    match next cs with
    | (some token, rest) => token :: allFrom bound rest
    | (none, rest) => allFrom bound rest

def all (source : String) : List Token := allFrom source.toList.length source.toList

end Token

end Quarry.Selector
