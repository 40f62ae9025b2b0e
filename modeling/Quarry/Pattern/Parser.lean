import Quarry.Pattern.Flags

/-!
Reading patterns. What a pattern may hold: choices, groups with or without a number or a name,
flags, repetitions, sets in brackets with intersections, differences and nested sets, anchors
and escapes. There are no references back and no looking around.
-/

namespace Quarry.Pattern

/-- What is left of a pattern, the flags there, and the groups so far. -/
structure Cursor where
  rest : List Char
  flags : Flags
  groups : Nat
  names : List (String × Nat)

abbrev Reader := StateT Cursor Option

namespace Reader

/-! ## 1. Characters -/

/-- Drops blanks, and comments from a number sign to the end of its line. The first argument
says whether a comment is open. -/
def dropSpace : Bool → List Char → List Char
  | _, [] => []
  | true, c :: rest => dropSpace (c != '\n') rest
  | false, c :: rest =>
    if Text.isBlank c then dropSpace false rest
    else if c = '#' then dropSpace true rest
    else c :: rest

def peek : Reader (Option Char) := fun s => some (s.rest.head?, s)

def flags : Reader Flags := fun s => some (s.flags, s)

def modifyRest (f : List Char → List Char) : Reader Unit :=
  fun s => some ((), { s with rest := f s.rest })

/-- Drops blanks and comments where they do not count. -/
def space : Reader Unit := do
  if (← flags).spaced then modifyRest (dropSpace false)

def restore (s : Cursor) : Reader Unit := fun _ => some ((), s)

def drop : Reader Unit := modifyRest List.tail

def dropSpaced : Reader Unit := do drop; space

def char : Reader Char := fun s => s.rest.head?.map fun c => (c, s)

def accept (c : Char) : Reader Bool := do
  if (← peek) = some c then
    drop
    return true
  else return false

def expectSpaced (c : Char) : Reader Unit := do
  guard ((← peek) = some c)
  dropSpaced

/-- Reads characters as long as they pass, without the space between them. The bound is never
reached: each round takes a character. -/
def charsWhile (p : Char → Bool) : Nat → Reader (List Char)
  | 0 => return []
  | bound + 1 => do
    match ← peek with
    | some c =>
      if p c then
        dropSpaced
        return c :: (← charsWhile p bound)
      else return []
    | none => return []

def left : Reader Nat := fun s => some (s.rest.length, s)

def spacedWhile (p : Char → Bool) : Reader (List Char) := do charsWhile p (← left)

/-! ## 2. Escapes -/

inductive Primitive where
  | char (c : Char)
  | set (s : CharSet)
  | anchor (a : Anchor)

def hexDigit? (c : Char) : Option Nat :=
  if '0' ≤ c ∧ c ≤ '9' then some (c.toNat - '0'.toNat)
  else if 'a' ≤ c ∧ c ≤ 'f' then some (c.toNat - 'a'.toNat + 10)
  else if 'A' ≤ c ∧ c ≤ 'F' then some (c.toNat - 'A'.toNat + 10)
  else none

def ofHex? (digits : List Char) : Option Char := do
  guard !digits.isEmpty
  let n ← digits.foldlM (fun n c => (hexDigit? c).map fun d => 16 * n + d) 0
  if n.isValidChar then some (Char.ofNat n) else none

def spacedChars : Nat → Reader (List Char)
  | 0 => return []
  | n + 1 => do
    let c ← char
    dropSpaced
    return c :: (← spacedChars n)

/-- Reads a code point: any number of digits in braces, or exactly `width` of them. Two digits are
a byte, and without Unicode only a byte of ASCII is a character. -/
def codePoint (width : Nat) : Reader Char := do
  dropSpaced
  if (← peek) = some '{' then
    dropSpaced
    let digits ← spacedWhile (· != '}')
    expectSpaced '}'
    (ofHex? digits : Option Char)
  else
    let digits ← spacedChars width
    let c ← (ofHex? digits : Option Char)
    guard (width ≠ 2 || (← flags).unicode || c.toNat < 0x80)
    return c

/-- The set that a property in braces stands for: a name, or a name and a value with `=`, `:` or
`!=` between them. -/
def propertySet? (text : List Char) : Option CharSet :=
  let split (p : Char → Bool) : Option (String × String) :=
    match text.dropWhile (!p ·) with
    | _ :: value => some (.ofList (text.takeWhile (!p ·)), .ofList value)
    | [] => none
  let unequal : Option (List Char × List Char) :=
    ((List.range text.length).find? fun i => (text.drop i).take 2 = ['!', '=']).map
      fun i => (text.take i, text.drop (i + 2))
  match unequal with
  | some (name, value) =>
    (CharSet.propertyValue? (.ofList name) (.ofList value)).map .complement
  | none =>
    match (split (· = ':')).or (split (· = '=')) with
    | some (name, value) => CharSet.propertyValue? name value
    | none => CharSet.property? (CharSet.normalName (.ofList text))

def property : Reader CharSet := do
  guard (← flags).unicode
  let negated := (← char) = 'P'
  dropSpaced
  let set ←
    if (← peek) = some '{' then
      dropSpaced
      let text ← spacedWhile (· != '}')
      guard (← accept '}')
      (propertySet? text : Option CharSet)
    else
      let c ← char
      drop
      (CharSet.property? (CharSet.normalName (.singleton c)) : Option CharSet)
  return (← flags).closeAnd negated set

/-- Reads which edge of words is meant, after a `\b`. A brace without a name is left: it is a
repetition. -/
def wordEdge : Reader WordEdge := do
  let isName (c : Char) : Bool := c.isAlpha || c = '-'
  if (← peek) ≠ some '{' then return .either
  let before ← get
  dropSpaced
  if !isName (← char) then
    restore before
    return .either
  let name ← spacedWhile isName
  guard (← accept '}')
  match String.ofList name with
  | "start" => return .start
  | "end" => return .stop
  | "start-half" => return .startHalf
  | "end-half" => return .stopHalf
  | _ => failure

def isSpecial (c : Char) : Bool := "\\.+*?()|[]\x7b\x7d^$#&-~".contains c

def control? : Char → Option Char
  | 'a' => some '\x07'
  | 'f' => some '\x0c'
  | 't' => some '\t'
  | 'n' => some '\n'
  | 'r' => some '\r'
  | 'v' => some '\x0b'
  | _ => none

/-- Reads an escape. Letters and digits have a meaning of their own or none at all; all other
ASCII characters but the angle brackets may be escaped. -/
def escape : Reader Primitive := do
  drop
  let c ← char
  let f ← flags
  match c with
  | 'x' => return .char (← codePoint 2)
  | 'u' => return .char (← codePoint 4)
  | 'U' => return .char (← codePoint 8)
  | 'p' | 'P' => return .set (← property)
  | _ =>
    drop
    if let some s := f.letterSet? c then return .set s
    if let some c := control? c then return .char c
    match c with
    | 'A' => return .anchor .textStart
    | 'z' => return .anchor .textEnd
    | 'b' => return .anchor (f.edge (← wordEdge))
    | 'B' => return .anchor (f.edge .neither)
    | '<' => return .anchor (f.edge .start)
    | '>' => return .anchor (f.edge .stop)
    | _ =>
      guard (c.toNat < 0x80 && !c.isAlphanum)
      return .char c

/-! ## 3. Sets in brackets -/

inductive SetOperation where
  | inter | diff | symmDiff

/-- The result of an operation on the set in front of it, if there is one, and the set after
it. -/
def operate (f : Flags) (b : CharSet) : Option (SetOperation × CharSet) → CharSet
  | none => b
  | some (.inter, a) => .inter (f.close a) (f.close b)
  | some (.diff, a) => .diff (f.close a) (f.close b)
  | some (.symmDiff, a) => .symmDiff (f.close a) (f.close b)

/-- Reads a set such as `[:alpha:]` or `[:^alpha:]`. Anything else stays as it is. -/
def posix : Reader (Option CharSet) := fun s =>
  match s.rest with
  | '[' :: ':' :: rest =>
    let (negated, rest) := match rest with
      | '^' :: rest => (true, rest)
      | rest => (false, rest)
    match rest.dropWhile (· != ':') with
    | ':' :: ']' :: after =>
      match CharSet.posix? (.ofList (rest.takeWhile (· != ':'))) with
      | some named => some (some (s.flags.closeAnd negated named), { s with rest := after })
      | none => some (none, s)
    | _ => some (none, s)
  | _ => some (none, s)

def member : Reader Primitive := do
  if (← peek) = some '\\' then escape
  else
    let c ← char
    drop
    return .char c

/-- Whether a hyphen comes next that makes a range: one that is not followed by another or by
the closing bracket. -/
def opensRange : Reader Bool := fun s =>
  match s.rest with
  | '-' :: rest =>
    match (if s.flags.spaced then dropSpace false rest else rest) with
    | ']' :: _ | '-' :: _ => some (false, s)
    | _ => some (true, s)
  | _ => some (false, s)

def memberOrRange : Reader CharSet := do
  let first ← member
  space
  let _ ← char
  if ← opensRange then
    dropSpaced
    match first, ← member with
    | .char a, .char b =>
      guard (a ≤ b)
      return .range a b
    | _, _ => failure
  else
    match first with
    | .char c =>
      guard ((← flags).unicode || c.toNat < 0x80)
      return .single c
    | .set s => return s
    | .anchor _ => failure

/-- Reads the start of a set: its bracket, the sign that turns it round, and the hyphens and
the closing bracket that stand for themselves there. -/
def openSet : Reader (Bool × CharSet) := do
  dropSpaced
  let negated := (← peek) = some '^'
  if negated then dropSpaced
  let hyphens ← spacedWhile (· = '-')
  if !hyphens.isEmpty then return (negated, .single '-')
  if (← peek) = some ']' then
    dropSpaced
    return (negated, .single ']')
  return (negated, .empty)

def operation : Reader (Option SetOperation) := fun s =>
  match s.rest with
  | '&' :: '&' :: rest => some (some .inter, { s with rest })
  | '-' :: '-' :: rest => some (some .diff, { s with rest })
  | '~' :: '~' :: rest => some (some .symmDiff, { s with rest })
  | _ => some (none, s)

/-- Reads the members of a set up to its closing bracket. `before` is the operation that the
members are for, with the set in front of it, and `sofar` are those that were read. The bound is
never reached: each round takes a character. -/
def members : Nat → (negated : Bool) → (before : Option (SetOperation × CharSet)) →
    (sofar : CharSet) → Reader CharSet
  | 0, _, _, _ => failure
  | bound + 1, negated, before, sofar => do
    space
    let f ← flags
    match ← char with
    | '[' =>
      match ← posix with
      | some named => members bound negated before (.union sofar named)
      | none =>
        let (turned, start) ← openSet
        let inner ← members bound turned none start
        members bound negated before (.union sofar inner)
    | ']' =>
      drop
      return f.closeAnd negated (operate f sofar before)
    | _ =>
      match ← operation with
      | some op => members bound negated (some (op, operate f sofar before)) .empty
      | none =>
        let set ← memberOrRange
        members bound negated before (.union sofar set)

def bracketSet : Reader CharSet := do
  let bound ← left
  let (negated, start) ← openSet
  members bound negated none start

/-! ## 4. Repetitions -/

structure Times where
  least : Nat
  most : Option Nat

def count : Reader (Option Nat) := do
  modifyRest (·.dropWhile Text.isBlank)
  let digits ← spacedWhile Char.isDigit
  modifyRest (·.dropWhile Text.isBlank)
  if digits.isEmpty then return none
  let n := digits.foldl (fun n c => 10 * n + (c.toNat - '0'.toNat)) 0
  guard (n < Nat.pow 2 32)
  return some n

def counted : Reader Times := do
  dropSpaced
  let least ← count
  let times ←
    if (← peek) = some ',' then
      dropSpaced
      if (← peek) = some '}' then pure ⟨← least, none⟩
      else
        let most ← count
        pure ⟨← least, some (← most)⟩
    else pure ⟨← least, ← (least : Option Nat)⟩
  expectSpaced '}'
  guard (times.most.all (times.least ≤ ·))
  return times

def times : Reader Times := do
  match ← char with
  | '?' => drop; return ⟨0, some 1⟩
  | '*' => drop; return ⟨0, none⟩
  | '+' => drop; return ⟨1, none⟩
  | _ => counted

/-- Reads the sign of a repetition and the question mark that turns its preference round. -/
def repetition (body : Pattern) : Reader Pattern := do
  let f ← flags
  let t ← times
  let turned ← accept '?'
  return .repeated body t.least t.most (turned == f.lazy)

/-! ## 5. Groups -/

inductive Opening where
  | flags (f : Flags)
  | plain (f : Flags)
  | captured (name : Option String)

def isName : List Char → Bool
  | [] => false
  | c :: rest =>
    (c = '_' || Text.isAlphabetic c) &&
      rest.all fun c => c = '_' || c = '.' || c = '[' || c = ']' || Text.isAlphanumeric c

def opening : Reader Opening := do
  dropSpaced
  let s ← get
  let named (rest : List Char) : Reader Opening := do
    let name := rest.takeWhile (· != '>')
    guard (isName name && (rest.dropWhile (· != '>')).head? = some '>')
    restore { s with rest := (rest.dropWhile (· != '>')).tail }
    return .captured (some (.ofList name))
  match s.rest with
  | '?' :: '=' :: _ | '?' :: '!' :: _ | '?' :: '<' :: '=' :: _ | '?' :: '<' :: '!' :: _ => failure
  | '?' :: 'P' :: '<' :: rest | '?' :: '<' :: rest => named rest
  | '?' :: rest =>
    let (f, isGroup, rest) ← (Flags.read? rest true false [] s.flags : Option _)
    restore { s with rest }
    return if isGroup then .plain f else .flags f
  | _ => return .captured none

/-- Gives the next number to a group, and its name to the number. No two groups have one name. -/
def newGroup (name : Option String) : Reader Nat := fun s => do
  let index := s.groups + 1
  match name with
  | none => some (index, { s with groups := index })
  | some name =>
    guard !(s.names.any (·.1 = name))
    some (index, { s with groups := index, names := s.names ++ [(name, index)] })

def setFlags (f : Flags) : Reader Unit := fun s => some ((), { s with flags := f })

/-- The parts one after the other. They are given last first, and flags are no part. -/
def sequence (parts : List (Option Pattern)) : Pattern :=
  match parts.filterMap id with
  | [] => .empty
  | last :: before => before.foldl (fun rest p => .seq p rest) last

def single : Reader Pattern := do
  let f ← flags
  match ← char with
  | '.' => drop; (f.set f.dot : Option Pattern)
  | '^' => drop; return .anchor f.caret
  | '$' => drop; return .anchor f.dollar
  | '\\' =>
    match ← escape with
    | .char c => return f.literal c
    | .set s => (f.set s : Option Pattern)
    | .anchor a => return .anchor a
  | c => drop; return f.literal c

mutual

/-- Reads choices up to the end or a closing parenthesis. The bound is never reached: each step
takes a character. -/
def choices : Nat → Reader Pattern
  | 0 => failure
  | bound + 1 => do
    let first ← items bound []
    if ← accept '|' then return .choice first (← choices bound)
    else return first

/-- Reads the rest of one choice after some parts, which are given last first. -/
def items : Nat → List (Option Pattern) → Reader Pattern
  | 0, _ => failure
  | bound + 1, parts => do
    space
    match ← peek with
    | none | some '|' | some ')' => return sequence parts
    | some '(' =>
      let part ← group bound
      items bound (part :: parts)
    | some '[' =>
      let set ← bracketSet
      let part ← ((← flags).set set : Option Pattern)
      items bound (some part :: parts)
    | some '?' | some '*' | some '+' | some '{' =>
      match parts with
      | some body :: parts =>
        let part ← repetition body
        items bound (some part :: parts)
      | _ => failure
    | some _ =>
      let part ← single
      items bound (some part :: parts)

/-- Reads a group, or flags that hold up to the end of the group around them. -/
def group : Nat → Reader (Option Pattern)
  | 0 => failure
  | bound + 1 => do
    let before ← flags
    let opened ← opening
    match opened with
    | .flags f =>
      setFlags f
      return none
    | .plain f =>
      setFlags f
      let body ← choices bound
      guard (← accept ')')
      setFlags before
      return some body
    | .captured name =>
      let index ← newGroup name
      let body ← choices bound
      guard (← accept ')')
      setFlags before
      return some (.group index body)

end

end Reader

def parse? (source : String) : Option (Pattern × Nat × List (String × Nat)) := do
  let text := source.toList
  let (p, s) ← (Reader.choices (3 * text.length + 3)).run ⟨text, {}, 0, []⟩
  if s.rest.isEmpty then some (p, s.groups, s.names) else none

end Quarry.Pattern
