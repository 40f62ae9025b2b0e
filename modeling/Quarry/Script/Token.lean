import Quarry.Number.Layout
import Quarry.Text.Quoted

/-!
Tokens of the script language, and the words reserved for keywords.
-/

namespace Quarry.Script

/-- A token. Words such as `page`, `thread` or `identity` mean something in one place of the
grammar only and stay identifiers. -/
inductive Token where
  | float (value : Float)
  | integer (value : Int64)
  | string (value : String)
  | boolean (value : Bool)
  | null
  | identifier (name : String)
  | select | «from» | «where» | as | create | buffer | insert | into | download | «with»
  | pick | take | «match» | replace
  | case | when | «then» | «else» | «end»
  | eq | notEq | lt | gt | ltEq | gtEq
  | plus | minus | star | slash | percent
  | and | or | not
  | lparen | rparen | comma | semicolon
  | eof
deriving DecidableEq, Inhabited

namespace Token

def keyword? : String → Option Token
  | "select" => some .select
  | "from" => some .from
  | "where" => some .where
  | "as" => some .as
  | "create" => some .create
  | "buffer" => some .buffer
  | "insert" => some .insert
  | "into" => some .into
  | "download" => some .download
  | "with" => some .with
  | "pick" => some .pick
  | "take" => some .take
  | "match" => some .match
  | "replace" => some .replace
  | "case" => some .case
  | "when" => some .when
  | "then" => some .then
  | "else" => some .else
  | "end" => some .end
  | "and" => some .and
  | "or" => some .or
  | "not" => some .not
  | "true" => some (.boolean true)
  | "false" => some (.boolean false)
  | "null" => some .null
  | _ => none

/-- The token of a word: a keyword in any ASCII letter case, else an identifier. -/
def ofWord (word : String) : Token := (keyword? word.toLower).getD (.identifier word)

def kind : Token → String
  | float _ => "Float"
  | integer _ => "Integer"
  | string _ => "String"
  | boolean _ => "Boolean"
  | null => "Null"
  | identifier _ => "Identifier"
  | select => "Select"
  | .from => "From"
  | .where => "Where"
  | as => "As"
  | create => "Create"
  | buffer => "Buffer"
  | insert => "Insert"
  | into => "Into"
  | download => "Download"
  | .with => "With"
  | pick => "Pick"
  | take => "Take"
  | .match => "Match"
  | replace => "Replace"
  | case => "Case"
  | when => "When"
  | .then => "Then"
  | .else => "Else"
  | .end => "End"
  | eq => "Eq"
  | notEq => "NotEq"
  | lt => "Lt"
  | gt => "Gt"
  | ltEq => "LtEq"
  | gtEq => "GtEq"
  | plus => "Plus"
  | minus => "Minus"
  | star => "Star"
  | slash => "Slash"
  | percent => "Percent"
  | and => "And"
  | or => "Or"
  | not => "Not"
  | lparen => "LParen"
  | rparen => "RParen"
  | comma => "Comma"
  | semicolon => "Semicolon"
  | eof => "Eof"

def payload? : Token → Option String
  | float x => some (Number.FloatLayout.marked.write x)
  | integer n => some (toString n.toInt)
  | string s => some (Text.quoted s)
  | boolean b => some (if b then "true" else "false")
  | identifier name => some (Text.quoted name)
  | _ => none

def describe (t : Token) : String :=
  match t.payload? with
  | some text => s!"{t.kind}({text})"
  | none => t.kind

/-- Whether the token is the given word, in any ASCII letter case. -/
def isWord (t : Token) (word : String) : Bool :=
  match t with
  | identifier name => name.toLower == word
  | _ => false

end Token

end Quarry.Script
