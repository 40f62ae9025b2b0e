import Quarry.Script.Parser.Expr
import Quarry.Script.Statement

/-!
Reading statements and whole scripts. The bounds that the readers take are never reached on a
scan with fewer lexemes.
-/

namespace Quarry.Script.Parser

def hint : Parser Hint := do
  let position ← place
  if ← acceptWord "js" then return .js
  unless ← acceptWord "thread" do expected "'thread'"
  optionalParens do
    match ← peek with
    | .integer count =>
      advance
      return .thread count position
    | _ => expected "thread count"

def hints (bound : Nat) : Nat → Parser (List Hint)
  | 0 => return []
  | clauses + 1 => do
    if ← accept .with then
      let clause ← optionalParens (commaList hint bound)
      return clause ++ (← hints bound clauses)
    else return []

def projection (bound : Nat) : Parser Projection := do
  let position ← place
  if ← accept .star then return .star position
  let expr ← expression bound
  if ← accept .as then
    match ← peek with
    | .identifier name | .string name =>
      advance
      return .item expr (some name)
    | _ => expected "alias after 'as'"
  else return .item expr none

def downloadKind : Parser DownloadKind := do
  if ← acceptWord "page" then return .page
  if ← acceptWord "json" then return .json
  if ← acceptWord "image" then return .image
  expected "'page', 'json' or 'image' after 'download'"

def source (select : Parser (Select Unit)) (bound : Nat) : Parser (Source Unit) := do
  let position ← place
  match ← peek with
  | .download =>
    advance
    let kind ← downloadKind
    match ← peek with
    | .string url =>
      advance
      return .download kind url (← hints bound bound) position
    | .lparen =>
      advance
      let urls ← select
      expect .rparen
      return .downloadEach kind urls (← hints bound bound) position
    | _ => expected "url or '(select ..)' after 'download'"
  | .identifier name =>
    advance
    return .buffer name position
  | _ => expected "'download' or a buffer name after 'from'"

/-- Reads a select whose url queries nest at most as deep as the second bound. -/
def select (bound : Nat) : Nat → Parser (Select Unit)
  | 0 => expected Token.select.describe
  | depth + 1 => do
    let position ← place
    expect .select
    let projections ← commaList (projection bound) bound
    let source ←
      if ← accept .from then source (select bound depth) bound else pure .nothing
    let filter ← if ← accept .where then some <$> expression bound else pure none
    let hints ← hints bound bound
    return { projections, source, filter, hints, position, note := () }

def columnDecl : Parser ColumnDecl := do
  let position ← place
  let name ← identifier "column name"
  let typeName ← identifier "column type"
  let trailing ← acceptWord "identity"
  return { name, typeName, identity := trailing || typeName.toLower == "identity", position }

def createBuffer (bound : Nat) : Parser (Statement Unit) := do
  let position ← place
  advance
  expect .buffer
  let name ← identifier "buffer name"
  expect .lparen
  let columns ← commaList columnDecl bound
  expect .rparen
  return .createBuffer name columns position

def insert (bound : Nat) : Parser (Statement Unit) := do
  let position ← place
  advance
  expect .into
  let target ← identifier "buffer name"
  let columns ←
    if ← accept .lparen then
      let names ← commaList (identifier "column name") bound
      expect .rparen
      pure (some names)
    else pure none
  unless (← peek) = .select do expected s!"'select' after 'insert into {target}'"
  return .insert target columns (← select bound bound) position

def statement (bound : Nat) : Parser (Statement Unit) := do
  match ← peek with
  | .create => createBuffer bound
  | .insert => insert bound
  | .select => return .select (← select bound bound)
  | _ => expected "'create', 'insert' or 'select'"

/-- Reads statements up to the end, with any number of semicolons before, between and after
them. -/
def program (bound : Nat) : Nat → Parser (Program Unit)
  | 0 => return []
  | steps + 1 => do
    match ← peek with
    | .semicolon =>
      advance
      program bound steps
    | .eof => return []
    | _ => return (← statement bound) :: (← program bound steps)

end Quarry.Script.Parser

namespace Quarry.Script

def parseProgram (source : String) : Except SyntaxError (Program Unit) := do
  let start ← Parser.settle (scan source)
  let bound := start.size + 1
  return (← (Parser.program bound bound).run start).1

end Quarry.Script
