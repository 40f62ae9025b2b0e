import Quarry.Selector.Basic
import Quarry.Selector.Token

/-!
Reading selectors. A bracket or a parenthesis without an end reaches to the end of the text.
-/

namespace Quarry.Selector

abbrev Reader := StateT (List Token) Option

namespace Reader

/-! ## 1. Tokens -/

def peek : Reader (Option Token) := fun ts => some (ts.head?, ts)

def drop : Reader Unit := fun ts => some ((), ts.tail)

def space : Reader Unit := fun ts => some ((), ts.dropWhile (· == .space))

def token : Reader Token
  | [] => none
  | t :: rest => some (t, rest)

/-- Drops the end of a block, which may be missing. Anything else is an error. -/
def close (c : Char) : Reader Unit := do
  space
  match ← peek with
  | none => return ()
  | some t =>
    guard (t = .closing c)
    drop

/-- Reads a combinator if there is one; white space alone is one too, unless it is the last. -/
def combinator? : Reader (Option Combinator) := fun ts =>
  let rest := ts.dropWhile (· == .space)
  match rest with
  | .sign '>' :: rest => some (some .child, rest)
  | .sign '+' :: rest => some (some .next, rest)
  | .sign '~' :: rest => some (some .later, rest)
  | [] => some (none, [])
  | _ => some (if rest.length < ts.length then some .within else none, rest)

/-! ## 2. Positions -/

def dashDigits? (name : String) : Option Int :=
  match name.toList.map Char.toLower with
  | 'n' :: '-' :: digits =>
    if digits.isEmpty || !digits.all Char.isDigit then none
    else
      let n := digits.foldl (fun n c => 10 * n + (c.toNat - '0'.toNat)) 0
      some (-(n : Int))
  | _ => none

def unsigned : Reader Int := do
  space
  match ← token with
  | .number false (some n) => return n
  | _ => failure

def offset : Reader Int := fun ts =>
  match ts.dropWhile (· == .space) with
  | .sign '+' :: rest => unsigned rest
  | .sign '-' :: rest => (unsigned rest).map fun (n, rest) => (-n, rest)
  | .number true (some n) :: rest => some (n, rest)
  | _ => some (0, ts)

/-- Reads a multiple of `n` from a name: `n`, `n-` or `n-` with digits. -/
def multiple (step : Int) (name : String) : Reader (Int × Int) := do
  match name.toLower with
  | "n" => return (step, ← offset)
  | "n-" => return (step, -(← unsigned))
  | _ => return (step, ← (dashDigits? name : Option Int))

/-- Reads which positions are meant: `even`, `odd`, a number, or a multiple of `n` with what is
added to it. -/
def positions : Reader (Int × Int) := do
  space
  match ← token with
  | .number _ (some n) => return (0, n)
  | .dimension (some step) unit => multiple step unit
  | .ident name =>
    match name.toLower with
    | "even" => return (2, 0)
    | "odd" => return (2, 1)
    | _ =>
      match name.toList with
      | '-' :: rest => multiple (-1) (.ofList rest)
      | _ => multiple 1 name
  | .sign '+' =>
    match ← token with
    | .ident name =>
      match name.toLower with
      | "even" => return (2, 0)
      | "odd" => return (2, 1)
      | _ => multiple 1 name
    | _ => failure
  | _ => failure

/-! ## 3. Attributes -/

/-- The attributes whose values differ in more than letter case only if they are meant to. -/
def ignoresCase (key : String) : Bool :=
  ["accept", "accept-charset", "align", "alink", "axis", "bgcolor", "charset", "checked",
    "clear", "codetype", "color", "compact", "declare", "defer", "dir", "direction", "disabled",
    "enctype", "face", "frame", "hreflang", "http-equiv", "lang", "language", "link", "media",
    "method", "multiple", "nohref", "noresize", "noshade", "nowrap", "readonly", "rel", "rev",
    "rules", "scope", "scrolling", "selected", "shape", "target", "text", "type", "valign",
    "valuetype", "vlink"].contains key

/-- Reads the name of an attribute. Only the name spaces `*` and none can be written. -/
def attributeName : Reader String := do
  space
  match ← token with
  | .ident name =>
    guard ((← peek) ≠ some (.sign '|'))
    return name.toLower
  | .sign '*' =>
    guard ((← token) = .sign '|')
    match ← token with
    | .ident name => return name.toLower
    | _ => failure
  | .sign '|' =>
    match ← token with
    | .ident name => return name.toLower
    | _ => failure
  | _ => failure

def valueTest? : Token → Option ValueTest
  | .sign '=' => some .equal
  | .comparison '~' => some .word
  | .comparison '|' => some .language
  | .comparison '^' => some .starts
  | .comparison '$' => some .ends
  | .comparison '*' => some .holds
  | _ => none

def attributeCondition : Reader Simple := do
  let key ← attributeName
  space
  match ← peek with
  | none => return .hasAttribute key
  | some (.closing ']') =>
    drop
    return .hasAttribute key
  | some t =>
    let test ← (valueTest? t : Option ValueTest)
    drop
    space
    let value ←
      match ← token with
      | .ident text => pure text
      | .string text => pure text
      | _ => failure
    space
    let ignoreCase ←
      match ← peek with
      | some (.ident flag) =>
        drop
        match flag.toLower with
        | "i" => pure true
        | "s" => pure false
        | _ => failure
      | _ => pure (ignoresCase key)
    close ']'
    return .attribute key test value ignoreCase

/-! ## 4. Conditions on one element -/

/-- Reads the name of an element, with a name space in front of it. Any name space may be
written as `*`; an element that is in none is no element of a page. -/
def elementName? : Reader (Option (List Simple)) := fun ts =>
  let qualified (ts : List Token) (only : List Simple) :
      Option (Option (List Simple) × List Token) :=
    match ts with
    | .ident name :: rest => some (some (.name name.toLower :: only), rest)
    | .sign '*' :: rest => some (some (.any :: only), rest)
    | _ => none
  match ts.dropWhile (· == .space) with
  | .ident _ :: .sign '|' :: _ => none
  | .ident name :: rest => some (some [.name name.toLower], rest)
  | .sign '*' :: .sign '|' :: rest => qualified rest []
  | .sign '*' :: rest => some (some [.any], rest)
  | .sign '|' :: rest => qualified rest [.never]
  | rest => some (none, rest)

def plainCondition? (name : String) : Option (List Simple) :=
  let first (count : Count) : Simple := .position count 0 1
  match name.toLower with
  | "first-child" => some [first ⟨false, false⟩]
  | "last-child" => some [first ⟨false, true⟩]
  | "only-child" => some [first ⟨false, false⟩, first ⟨false, true⟩]
  | "first-of-type" => some [first ⟨true, false⟩]
  | "last-of-type" => some [first ⟨true, true⟩]
  | "only-of-type" => some [first ⟨true, false⟩, first ⟨true, true⟩]
  | "root" => some [.root]
  | "empty" => some [.empty]
  | "scope" => some [.scope]
  | _ => none

def count? : String → Option Count
  | "nth-child" => some ⟨false, false⟩
  | "nth-last-child" => some ⟨false, true⟩
  | "nth-of-type" => some ⟨true, false⟩
  | "nth-last-of-type" => some ⟨true, true⟩
  | _ => none

/-! ## 5. Selectors -/

def atEnd (closing : Option Char) : List Token → Bool
  | [] => true
  | .sign ',' :: _ => true
  | .closing c :: _ => closing = some c
  | _ => false

/-- Drops the tokens of a part of a list that cannot be read, up to its end. `blocks` are the ends
of the blocks that are open in it. A bad string or an end without a block is an error. -/
def skipPart (closing : Option Char) : List Char → List Token → Option (List Token)
  | _, [] => some []
  | [], t :: rest =>
    if atEnd closing (t :: rest) then some (t :: rest)
    else match t with
    | .badString | .closing _ => none
    | .opening '[' => skipPart closing [']'] rest
    | .opening '(' | .function _ => skipPart closing [')'] rest
    | .opening _ => skipPart closing ['\x7d'] rest
    | _ => skipPart closing [] rest
  | block :: blocks, t :: rest =>
    match t with
    | .closing c =>
      if c = block then skipPart closing blocks rest else skipPart closing (block :: blocks) rest
    | .opening '[' => skipPart closing (']' :: block :: blocks) rest
    | .opening '(' | .function _ => skipPart closing (')' :: block :: blocks) rest
    | .opening _ => skipPart closing ('\x7d' :: block :: blocks) rest
    | _ => skipPart closing (block :: blocks) rest

/-- How a list of selectors is read: whether a part that cannot be read is skipped, whether the
parts start at an anchor, and whether that is so around the list. -/
structure ListKind where
  forgiving : Bool
  relative : Bool
  withinHas : Bool

mutual

/-- Reads a list of selectors up to the end of the block around it. The bound is never reached:
each step takes a token or is one of a few between two that do. -/
def list (kind : ListKind) (closing : Option Char) : Nat → Reader (List Complex)
  | 0 => failure
  | bound + 1 => fun ts => do
    let read := (complex kind bound).run ts
    let (part, rest) ←
      match read with
      | some (part, rest) =>
        if atEnd closing rest then some (part, rest)
        else if kind.forgiving then
          (skipPart closing [] ts).map fun rest => (.alone [.never], rest)
        else none
      | none =>
        if kind.forgiving then
          (skipPart closing [] ts).map fun rest => (.alone [.never], rest)
        else none
    match rest with
    | .sign ',' :: rest =>
      let (others, rest) ← list kind closing bound rest
      some (part :: others, rest)
    | _ :: rest => some ([part], rest)
    | [] => some ([part], [])

def complex (kind : ListKind) : Nat → Reader Complex
  | 0 => failure
  | bound + 1 => do
    if kind.relative then
      let first ← combinator?
      let conditions ← compound kind.withinHas bound
      others kind.withinHas bound (.after .anchor (first.getD .within) conditions)
    else
      let conditions ← compound kind.withinHas bound
      others kind.withinHas bound (.alone conditions)

def others (withinHas : Bool) : Nat → Complex → Reader Complex
  | 0, _ => failure
  | bound + 1, left => fun ts => do
    match ← combinator? ts with
    | (none, rest) => some (left, rest)
    | (some c, rest) =>
      if c = .within && (atEnd none rest || (rest.head? matches some (.closing _))) then
        some (left, rest)
      else
        let (conditions, rest) ← compound withinHas bound rest
        others withinHas bound (.after left c conditions) rest

def compound (withinHas : Bool) : Nat → Reader (List Simple)
  | 0 => failure
  | bound + 1 => do
    let name ← elementName?
    let conditions ← simples withinHas bound
    let all := name.getD [] ++ conditions
    guard (name.isSome || !conditions.isEmpty)
    return all

def simples (withinHas : Bool) : Nat → Reader (List Simple)
  | 0 => failure
  | bound + 1 => do
    match ← peek with
    | some (.hash value true) =>
      drop
      return .id value :: (← simples withinHas bound)
    | some (.sign '.') =>
      drop
      match ← token with
      | .ident value => return .ofClass value :: (← simples withinHas bound)
      | _ => failure
    | some (.opening '[') =>
      drop
      let condition ← attributeCondition
      return condition :: (← simples withinHas bound)
    | some (.sign ':') =>
      drop
      match ← token with
      | .ident name =>
        let conditions ← (plainCondition? name : Option (List Simple))
        return conditions ++ (← simples withinHas bound)
      | .function name =>
        let condition ← functional withinHas name bound
        return condition :: (← simples withinHas bound)
      | _ => failure
    | _ => return []

def functional (withinHas : Bool) (name : String) : Nat → Reader Simple
  | 0 => failure
  | bound + 1 => do
    let name := name.toLower
    match count? name with
    | some count =>
      let (step, offset) ← positions
      close ')'
      return .position count step offset
    | none =>
      match name with
      | "is" | "where" => return .anyOf (← list ⟨true, false, withinHas⟩ (some ')') bound)
      | "not" => return .not (← list ⟨false, false, withinHas⟩ (some ')') bound)
      | "has" =>
        guard !withinHas
        return .has (← list ⟨false, true, true⟩ (some ')') bound)
      | _ => failure

end

end Reader

def parse? (source : String) : Option Selector :=
  let tokens := Token.all source
  match Reader.list ⟨false, false, false⟩ none (8 * tokens.length + 8) tokens with
  | some (parts, []) => some ⟨parts⟩
  | _ => none

end Quarry.Selector
