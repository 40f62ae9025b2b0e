import Quarry.Pattern.Basic

/-!
The flags of a pattern, and how they change what a character, a set or an anchor means.
-/

namespace Quarry.Pattern

structure Flags where
  caseless : Bool := false
  multiline : Bool := false
  dotAll : Bool := false
  lazy : Bool := false
  unicode : Bool := true
  carriage : Bool := false
  spaced : Bool := false
deriving Repr

namespace Flags

def set? (f : Flags) (letter : Char) (on : Bool) : Option Flags :=
  match letter with
  | 'i' => some { f with caseless := on }
  | 'm' => some { f with multiline := on }
  | 's' => some { f with dotAll := on }
  | 'U' => some { f with lazy := on }
  | 'u' => some { f with unicode := on }
  | 'R' => some { f with carriage := on }
  | 'x' => some { f with spaced := on }
  | _ => none

/-- Reads flags up to a colon or a closing parenthesis, and says whether it was a colon. After a
minus sign they are turned off. No letter stands twice, and a minus sign is not the last. A list
in parentheses of its own has at least one flag. -/
def read? : List Char → (on dangling : Bool) → (seen : List Char) → Flags →
    Option (Flags × Bool × List Char)
  | [], _, _, _, _ => none
  | ':' :: rest, _, dangling, _, f => if dangling then none else some (f, true, rest)
  | ')' :: rest, _, dangling, seen, f =>
    if dangling || seen.isEmpty then none else some (f, false, rest)
  | '-' :: rest, _, _, seen, f =>
    if seen.contains '-' then none else read? rest false true ('-' :: seen) f
  | c :: rest, on, _, seen, f =>
    if seen.contains c then none else (f.set? c on).bind fun f => read? rest on false (c :: seen) f

/-- A set with all characters that differ from a member in letter case only. -/
def close (f : Flags) (s : CharSet) : CharSet :=
  if !f.caseless then s else if f.unicode then .anyCase s else .anyAsciiCase s

def closeAnd (f : Flags) (negated : Bool) (s : CharSet) : CharSet :=
  if negated then .complement (f.close s) else f.close s

def literal (f : Flags) (c : Char) : Pattern :=
  .set (if f.unicode || c.toNat < 0x80 then f.close (.single c) else .single c)

/-- A set in a pattern. Without Unicode it has to be within ASCII. -/
def set (f : Flags) (s : CharSet) : Option Pattern :=
  if f.unicode || s.withinAscii then some (.set s) else none

def dot (f : Flags) : CharSet :=
  if f.dotAll then .all
  else if f.carriage then .complement (.ofRanges [('\n', '\n'), ('\r', '\r')])
  else .complement (.single '\n')

def caret (f : Flags) : Anchor := if f.multiline then .lineStart f.carriage else .textStart

def dollar (f : Flags) : Anchor := if f.multiline then .lineEnd f.carriage else .textEnd

def edge (f : Flags) (e : WordEdge) : Anchor := .word e !f.unicode

/-- The sets of one letter: `d` digits, `s` white space, `w` word characters; a capital stands
for the characters that are not in the set. -/
def letterSet? (f : Flags) : Char → Option CharSet
  | 'd' => some digits
  | 'D' => some (.complement digits)
  | 's' => some blanks
  | 'S' => some (.complement blanks)
  | 'w' => some words
  | 'W' => some (.complement words)
  | _ => none
where
  digits : CharSet := if f.unicode then .digit else .asciiDigit
  blanks : CharSet := if f.unicode then .blank else .asciiBlank
  words : CharSet := if f.unicode then .word else .asciiWord

end Flags

end Quarry.Pattern
