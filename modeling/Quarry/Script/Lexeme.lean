import Quarry.Number.Reading
import Quarry.Script.Position
import Quarry.Script.Token
import Quarry.Text.Blank
import Quarry.Text.Numeric

/-!
Lexemes: the tokens of a script with the places where they start. A script is trivia (white
space and `--` comments) and lexemes in turn; each lexeme is the longest text that its first
character can begin.
-/

namespace Quarry.Script

inductive LexFault where
  | unterminated
  | loneBang
  | unexpected (c : Char)
  | integerRange (digits : String)
deriving DecidableEq

namespace LexFault

def message : LexFault → String
  | unterminated => "unterminated string: missing closing quote"
  | loneBang => "unexpected '!' (did you mean '!='?)"
  | unexpected c => s!"unexpected character '{c}'"
  | integerRange digits => s!"integer '{digits}' out of range"

end LexFault

/-- A fault and the first character of the text that could not be read. -/
structure LexError where
  position : Position
  fault : LexFault
deriving DecidableEq

def LexError.message (e : LexError) : String :=
  s!"{e.position.describe}: {e.fault.message}"

/-! ## 1. Trivia -/

/-- Splits off white space and comments. The flag says that a comment is open; it lasts to the
end of its line. -/
def splitTrivia : Bool → List Char → List Char × List Char
  | _, [] => ([], [])
  | inComment, c :: cs =>
    if inComment then
      let (trivia, rest) := splitTrivia (c != '\n') cs
      (c :: trivia, rest)
    else if Text.isBlank c then
      let (trivia, rest) := splitTrivia false cs
      (c :: trivia, rest)
    else if c = '-' ∧ cs.head? = some '-' then
      let (trivia, rest) := splitTrivia true cs
      (c :: trivia, rest)
    else ([], c :: cs)

theorem splitTrivia_append (inComment : Bool) (cs : List Char) :
    (splitTrivia inComment cs).1 ++ (splitTrivia inComment cs).2 = cs := by
  induction cs generalizing inComment with
  | nil => rfl
  | cons c cs ih =>
    unfold splitTrivia
    split
    · simp [ih]
    · split
      · simp [ih]
      · split
        · simp [ih]
        · rfl

theorem length_splitTrivia_le (inComment : Bool) (cs : List Char) :
    (splitTrivia inComment cs).2.length ≤ cs.length := by
  have h := congrArg List.length (splitTrivia_append inComment cs)
  simp only [List.length_append] at h
  omega

/-! ## 2. One lexeme -/

/-- A token and how many characters spell it. -/
structure Cut where
  token : Token
  size : Nat

def startsWord (c : Char) : Bool := Text.isAlphabetic c || c == '_'

def continuesWord (c : Char) : Bool := Text.isAlphanumeric c || c == '_'

/-- Reads up to the closing quote: the contents, where a doubled quote stands for one, and how
many characters they take with the closing quote. -/
def readQuoted? (quote : Char) : List Char → Option (List Char × Nat)
  | [] => none
  | c :: cs =>
    if c = quote then
      match cs with
      | d :: ds =>
        if d = quote then (readQuoted? quote ds).map fun (text, n) => (quote :: text, n + 2)
        else some ([], 1)
      | [] => some ([], 1)
    else (readQuoted? quote cs).map fun (text, n) => (c :: text, n + 1)

/-- Cuts a number: digits, and a fraction if a point is followed by a digit. -/
def cutNumber (cs : List Char) : Except LexFault Cut :=
  let whole := cs.takeWhile Char.isDigit
  let fraction := match cs.drop whole.length with
    | '.' :: rest => rest.takeWhile Char.isDigit
    | _ => []
  if fraction.isEmpty then
    match Number.int64? (Number.ofDigits whole) with
    | some n => .ok ⟨.integer n, whole.length⟩
    | none => .error (.integerRange (String.ofList whole))
  else
    let value := Number.floatOf (Number.ofDigits (whole ++ fraction)) (-(fraction.length : Int))
    .ok ⟨.float value, whole.length + 1 + fraction.length⟩

def cutLexeme (c : Char) (cs : List Char) : Except LexFault Cut :=
  match c, cs with
  | ',', _ => .ok ⟨.comma, 1⟩
  | ';', _ => .ok ⟨.semicolon, 1⟩
  | '(', _ => .ok ⟨.lparen, 1⟩
  | ')', _ => .ok ⟨.rparen, 1⟩
  | '+', _ => .ok ⟨.plus, 1⟩
  | '-', _ => .ok ⟨.minus, 1⟩
  | '*', _ => .ok ⟨.star, 1⟩
  | '/', _ => .ok ⟨.slash, 1⟩
  | '%', _ => .ok ⟨.percent, 1⟩
  | '=', '=' :: _ => .ok ⟨.eq, 2⟩
  | '=', _ => .ok ⟨.eq, 1⟩
  | '!', '=' :: _ => .ok ⟨.notEq, 2⟩
  | '!', _ => .error .loneBang
  | '<', '=' :: _ => .ok ⟨.ltEq, 2⟩
  | '<', '>' :: _ => .ok ⟨.notEq, 2⟩
  | '<', _ => .ok ⟨.lt, 1⟩
  | '>', '=' :: _ => .ok ⟨.gtEq, 2⟩
  | '>', _ => .ok ⟨.gt, 1⟩
  | _, _ =>
    if c = '\'' ∨ c = '"' then
      match readQuoted? c cs with
      | some (text, n) => .ok ⟨.string (String.ofList text), n + 1⟩
      | none => .error .unterminated
    else if startsWord c then
      let word := c :: cs.takeWhile continuesWord
      .ok ⟨Token.ofWord (String.ofList word), word.length⟩
    else if c.isDigit then cutNumber (c :: cs)
    else .error (.unexpected c)

/-! ## 3. A whole script -/

structure Lexeme where
  token : Token
  position : Position
deriving DecidableEq

/-- The lexemes of a script, up to its end or to the first text that is none. A reader meets
the fault only when it gets there. -/
inductive Scan where
  | stop (position : Position)
  | fault (error : LexError)
  | lexeme (head : Lexeme) (rest : Scan)
deriving DecidableEq

/-- Scans the characters that start at a place. Every lexeme has a character, so that each
step leaves less to scan. -/
def scanFrom (position : Position) (cs : List Char) : Scan :=
  let split := splitTrivia false cs
  let start := position.after split.1
  match hrest : split.2 with
  | [] => .stop start
  | c :: rest =>
    match cutLexeme c rest with
    | .error fault => .fault ⟨start, fault⟩
    | .ok cut =>
      let size := cut.size - 1
      have hlt : rest.length < cs.length := by
        have hle := length_splitTrivia_le false cs
        have hlen : (splitTrivia false cs).2.length = rest.length + 1 := by
          simpa using congrArg List.length hrest
        omega
      .lexeme ⟨cut.token, start⟩
        (scanFrom (start.after (c :: rest.take size)) (rest.drop size))
termination_by cs.length
decreasing_by
  simp only [List.length_drop]
  omega

def scan (source : String) : Scan := scanFrom Position.start source.toList

namespace Scan

/-- The lexemes as a list that ends with the end of the script, unless a fault comes first. -/
def toList : Scan → Except LexError (List Lexeme)
  | stop position => .ok [⟨.eof, position⟩]
  | fault error => .error error
  | lexeme head rest => rest.toList.map (head :: ·)

end Scan

def tokenize (source : String) : Except LexError (List Lexeme) := (scan source).toList

end Quarry.Script
