import Quarry.Proofs.Number.Sign
import Quarry.Proofs.Script.Relocation

/-!
# A printer of scripts

The tokens of a program. A part of an expression stands in parentheses exactly if it binds looser than its
place needs. Programs in normal form are those that a script can have.
-/

namespace Quarry.Script

/-! ## 1. Pieces -/

/-- Items with commas between them. -/
def commas : List (List Token) → List Token
  | [] => []
  | [ts] => ts
  | ts :: us :: rest => ts ++ .comma :: commas (us :: rest)

/-- An item behind its keyword, if there is one. -/
def behind {α : Type} (keyword : Token) (print : α → List Token) : Option α → List Token
  | none => []
  | some a => keyword :: print a

def Take.print : Take → List Token
  | .text => [.identifier "text"]
  | .html => [.identifier "html"]
  | .attribute name => [.identifier "attribute", .string name]

/-- A text in quotes. -/
def printText (text : String) : List Token := [.string text]

/-- A name that is no keyword. -/
def printName (name : String) : List Token := [.identifier name]

/-- A pick after its keyword. -/
def Pick.print (p : Pick) : List Token :=
  printText p.selector ++ (behind .take Take.print p.take ++
    (behind .match printText p.pattern ++ behind .replace printText p.replace))

/-! ## 2. Expressions -/

/-- The token of an operator. -/
def Token.ofOperator : Operator → Token
  | .equal => .eq
  | .notEqual => .notEq
  | .less => .lt
  | .greater => .gt
  | .lessEqual => .ltEq
  | .greaterEqual => .gtEq
  | .add => .plus
  | .subtract => .minus
  | .multiply => .star
  | .divide => .slash
  | .modulo => .percent
  | .and => .and
  | .or => .or

namespace Level

/-- The level of an operator. -/
def ofOperator : Operator → Level
  | .or => or
  | .and => and
  | .equal | .notEqual | .less | .greater | .lessEqual | .greaterEqual => comparison
  | .add | .subtract => sum
  | .multiply | .divide | .modulo => product

/-- What the operand in front of an operator of the level needs. Operators of a chain associate to the
left, comparisons not at all. -/
def front (level : Level) : Level := if level.isChain then level else level.next

/-- Parentheses around what binds looser than its place needs. -/
def enclose (need level : Level) (ts : List Token) : List Token :=
  if level.rank < need.rank then .lparen :: (ts ++ [.rparen]) else ts

end Level

/-- The level of an expression. -/
def Expr.level : Expr → Level
  | .binary op _ _ _ => .ofOperator op
  | .not _ => .not
  | _ => .primary

/-- A literal. A number with a sign has a minus in front. -/
def printLiteral : Value → List Token
  | .null => [.null]
  | .boolean b => [.boolean b]
  | .string text => [.string text]
  | .integer n => if n < 0 then [.minus, .integer (-n)] else [.integer n]
  | .float x => if Number.negative x then [.minus, .float (-x)] else [.float x]

mutual

/-- An expression without parentheses around it. -/
def Expr.print : Expr → List Token
  | .literal value => printLiteral value
  | .column name _ => printName name
  | .pick pick _ => .pick :: pick.print
  | .simpleCase subject branches _ => .case :: (subject.print ++ branches.print)
  | .searchedCase branches _ => .case :: branches.print
  | .binary op left right _ =>
      (Level.ofOperator op).front.enclose left.level left.print ++
        .ofOperator op :: (Level.ofOperator op).next.enclose right.level right.print
  | .not operand => .not :: Level.not.enclose operand.level operand.print

def Branches.print : Branches → List Token
  | .done => [.end]
  | .otherwise result => .else :: (result.print ++ [.end])
  | .branch condition result rest =>
      .when :: (condition.print ++ .then :: (result.print ++ rest.print))

end

/-! ## 3. Statements -/

def Hint.print : Hint → List Token
  | .js => [.identifier "js"]
  | .thread count _ => [.identifier "thread", .integer count]

/-- Hints in one clause. -/
def printHints : List Hint → List Token
  | [] => []
  | hint :: hints => .with :: commas ((hint :: hints).map Hint.print)

def Projection.print : Projection → List Token
  | .star _ => [.star]
  | .item e label => e.print ++ behind .as printText label

mutual

def Select.print : Select Unit → List Token
  | ⟨projections, source, filter, hints, _, _⟩ =>
      .select :: (commas (projections.map Projection.print) ++
        (source.print ++ (behind .where Expr.print filter ++ printHints hints)))

/-- The source of a select, with the keyword in front. -/
def Source.print : Source Unit → List Token
  | .nothing => []
  | .buffer name _ => [.from, .identifier name]
  | .download kind url hints _ =>
      .from :: .download :: .identifier kind.word :: (printText url ++ printHints hints)
  | .downloadEach kind urls hints _ =>
      .from :: .download :: .identifier kind.word :: .lparen ::
        (urls.print ++ .rparen :: printHints hints)

end

/-- A column of a declaration. The word for the identity follows a type that does not say it. -/
def ColumnDecl.print (c : ColumnDecl) : List Token :=
  .identifier c.name :: .identifier c.typeName ::
    if c.identity && c.typeName.toLower != "identity" then [.identifier "identity"] else []

def printTargets : Option (List String) → List Token
  | none => []
  | some names => .lparen :: (commas (names.map printName) ++ [.rparen])

def Statement.print : Statement Unit → List Token
  | .createBuffer name columns _ =>
      .create :: .buffer :: (printName name ++
        .lparen :: (commas (columns.map ColumnDecl.print) ++ [.rparen]))
  | .insert target columns query _ =>
      .insert :: .into :: (printName target ++ (printTargets columns ++ query.print))
  | .select query => query.print

/-- The statements of a program, one behind the other. None needs a semicolon. -/
def Program.print (p : Program Unit) : List Token := p.flatMap Statement.print

/-! ## 4. Normal form -/

/-- The name is no keyword. -/
def IsName (name : String) : Prop := Token.keyword? name.toLower = none

/-- A literal that can be written: all numbers but the least integer. -/
def NormalLiteral : Value → Prop
  | .integer n => n ≠ Int64.minValue
  | .float x => x.isNaN = false
  | .null | .boolean _ | .string _ => True

/-- A replacement needs a match. -/
def Pick.Normal (p : Pick) : Prop := p.replace.isSome → p.pattern.isSome

mutual

/-- Names are no keywords, and a case has a condition. -/
def Expr.Normal : Expr → Prop
  | .literal value => NormalLiteral value
  | .column name _ => IsName name
  | .pick pick _ => pick.Normal
  | .simpleCase subject branches _ => subject.Normal ∧ branches.hasCondition ∧ branches.Normal
  | .searchedCase branches _ => branches.hasCondition ∧ branches.Normal
  | .binary _ left right _ => left.Normal ∧ right.Normal
  | .not operand => operand.Normal

def Branches.Normal : Branches → Prop
  | .done => True
  | .otherwise result => result.Normal
  | .branch condition result rest => condition.Normal ∧ result.Normal ∧ rest.Normal

end

/-- The number of threads is not negative. -/
def Hint.Normal : Hint → Prop
  | .thread count _ => 0 ≤ count
  | .js => True

def Projection.Normal : Projection → Prop
  | .star _ => True
  | .item e _ => e.Normal

mutual

/-- There is a projection, and hints that follow a download belong to the download. -/
def Select.Normal : Select Unit → Prop
  | ⟨projections, source, filter, hints, _, _⟩ =>
      projections ≠ [] ∧ (∀ p ∈ projections, p.Normal) ∧ source.Normal ∧
        (∀ e ∈ filter, e.Normal) ∧ (∀ hint ∈ hints, hint.Normal) ∧
        (source.isDownload → filter = none → hints = [])

def Source.Normal : Source Unit → Prop
  | .nothing => True
  | .buffer name _ => IsName name
  | .download _ _ hints _ => ∀ hint ∈ hints, hint.Normal
  | .downloadEach _ urls hints _ => urls.Normal ∧ ∀ hint ∈ hints, hint.Normal

end

/-- A column whose type is the identity is one. -/
structure ColumnDecl.Normal (c : ColumnDecl) : Prop where
  name : IsName c.name
  typeName : IsName c.typeName
  identity : c.typeName.toLower = "identity" → c.identity

def Statement.Normal : Statement Unit → Prop
  | .createBuffer name columns _ => IsName name ∧ columns ≠ [] ∧ ∀ c ∈ columns, c.Normal
  | .insert target columns query _ =>
      IsName target ∧ (∀ names ∈ columns, names ≠ [] ∧ ∀ name ∈ names, IsName name) ∧ query.Normal
  | .select query => query.Normal

/-- The program is in normal form. -/
def Program.Normal (p : Program Unit) : Prop := ∀ s ∈ p, s.Normal

/-! ## 5. Without places -/

/-- All at the first character of a script. -/
def nowhere (_ : Position) : Position := Position.start

/-- The program without the places of its parts. -/
def Program.unplaced (p : Program Unit) : Program Unit := p.relocate nowhere

end Quarry.Script
