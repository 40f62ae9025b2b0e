import Quarry.Script.Lexeme

/-!
Steps of a reader of scripts. A reader works on the lexemes that are left, looks at the first of
them and fails at its place. A text that is no lexeme fails when the reader gets to it.
-/

namespace Quarry.Script

inductive SyntaxFault where
  | lexical (fault : LexFault)
  | expected (what : String) (got : Token)
  | noExpression (got : Token)
  | replaceWithoutMatch
  | caseWithoutWhen
deriving DecidableEq

namespace SyntaxFault

def message : SyntaxFault → String
  | lexical fault => fault.message
  | expected what got => s!"expected {what}, got {got.describe}"
  | noExpression got => s!"unexpected token in expression: {got.describe}"
  | replaceWithoutMatch => "'replace' requires a preceding 'match'"
  | caseWithoutWhen => "'case' requires at least one 'when' branch"

end SyntaxFault

structure SyntaxError where
  position : Position
  fault : SyntaxFault
deriving DecidableEq

def SyntaxError.message (e : SyntaxError) : String :=
  s!"syntax error at {e.position.describe}: {e.fault.message}"

namespace Scan

def token : Scan → Token
  | lexeme head _ => head.token
  | _ => .eof

def position : Scan → Position
  | stop position => position
  | fault error => error.position
  | lexeme head _ => head.position

def size : Scan → Nat
  | lexeme _ rest => rest.size + 1
  | _ => 0

end Scan

abbrev Parser := StateT Scan (Except SyntaxError)

namespace Parser

def fail {α : Type} (fault : SyntaxFault) : Parser α :=
  fun s => .error ⟨s.position, fault⟩

def peek : Parser Token := fun s => .ok (s.token, s)

def place : Parser Position := fun s => .ok (s.position, s)

/-- Fails if what is left starts with a text that is no lexeme. -/
def settle : Scan → Except SyntaxError Scan
  | .fault error => .error ⟨error.position, .lexical error.fault⟩
  | s => .ok s

/-- Drops the first token. The end of the script stays. -/
def advance : Parser Unit := fun s =>
  match s with
  | .lexeme _ rest => (settle rest).map fun s => ((), s)
  | s => .ok ((), s)

/-- Fails with what would have been right here. -/
def expected {α : Type} (what : String) : Parser α := do
  fail (.expected what (← peek))

def accept (t : Token) : Parser Bool := do
  if (← peek) = t then
    advance
    return true
  else return false

def expect (t : Token) : Parser Unit := do
  unless ← accept t do expected t.describe

def acceptWord (word : String) : Parser Bool := do
  if (← peek).isWord word then
    advance
    return true
  else return false

def identifier (what : String) : Parser String := do
  match ← peek with
  | .identifier name =>
    advance
    return name
  | _ => expected what

def string (what : String) : Parser String := do
  match ← peek with
  | .string text =>
    advance
    return text
  | _ => expected s!"{what} in quotes"

/-- Reads one or more items with commas between them. The bound is never reached: each further
item takes a comma. -/
def commaList {α : Type} (item : Parser α) : Nat → Parser (List α)
  | 0 => return []
  | bound + 1 => do
    let x ← item
    if ← accept .comma then
      return x :: (← commaList item bound)
    else return [x]

def optionalParens {α : Type} (inner : Parser α) : Parser α := do
  let open? ← accept .lparen
  let x ← inner
  if open? then expect .rparen
  return x

end Parser

end Quarry.Script
