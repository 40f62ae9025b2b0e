import Quarry.Script.Parser.Statement

/-!
# The grammar of scripts

Which lexemes spell which expressions, statements and programs. A relation, apart from the readers: they
are shown to accept these spellings and no others.
-/

namespace Quarry.Script

/-! ## 1. Pieces -/

/-- An item that may be left out. It has a keyword in front. -/
inductive Optionally {α : Type} (keyword : Token) (item : α → List Lexeme → Prop) :
    Option α → List Lexeme → Prop where
  | none : Optionally keyword item none []
  | some {l : Lexeme} {a : α} {ts : List Lexeme} (hl : l.token = keyword) (ha : item a ts) :
      Optionally keyword item (some a) (l :: ts)

/-- One or more items with commas between them. -/
inductive Listed {α : Type} (item : α → List Lexeme → Prop) : List α → List Lexeme → Prop where
  | one {a : α} {ts : List Lexeme} (ha : item a ts) : Listed item [a] ts
  | more {l : Lexeme} {a : α} {as : List α} {ts ts' : List Lexeme} (ha : item a ts)
      (hl : l.token = .comma) (has : Listed item as ts') : Listed item (a :: as) (ts ++ l :: ts')

/-- An item that may stand in parentheses. -/
inductive Enclosed {α : Type} (item : α → List Lexeme → Prop) : α → List Lexeme → Prop where
  | bare {a : α} {ts : List Lexeme} (ha : item a ts) : Enclosed item a ts
  | parens {l r : Lexeme} {a : α} {ts : List Lexeme} (hl : l.token = .lparen) (ha : item a ts)
      (hr : r.token = .rparen) : Enclosed item a (l :: (ts ++ [r]))

/-- A name as one lexeme. -/
inductive NameSpelled : String → List Lexeme → Prop where
  | intro {l : Lexeme} {name : String} (hl : l.token = .identifier name) : NameSpelled name [l]

/-- A text in quotes as one lexeme. -/
inductive TextSpelled : String → List Lexeme → Prop where
  | intro {l : Lexeme} {text : String} (hl : l.token = .string text) : TextSpelled text [l]

/-- A name for a projection, bare or in quotes. -/
inductive LabelSpelled : String → List Lexeme → Prop where
  | name {l : Lexeme} {label : String} (hl : l.token = .identifier label) : LabelSpelled label [l]
  | text {l : Lexeme} {label : String} (hl : l.token = .string label) : LabelSpelled label [l]

/-! ## 2. Picks -/

inductive Take.Spelled : Take → List Lexeme → Prop where
  | text {l : Lexeme} (hl : l.token.isWord "text") : Spelled .text [l]
  | html {l : Lexeme} (hl : l.token.isWord "html") : Spelled .html [l]
  | attribute {l : Lexeme} {name : String} {ts : List Lexeme} (hl : l.token.isWord "attribute")
      (hname : TextSpelled name ts) : Spelled (.attribute name) (l :: ts)

/-- A pick after its keyword. -/
inductive Pick.Spelled : Pick → List Lexeme → Prop where
  | intro {selector : String} {take : Option Take} {pattern replace : Option String}
      {ts ts₁ ts₂ ts₃ : List Lexeme} (hselector : TextSpelled selector ts)
      (htake : Optionally .take Take.Spelled take ts₁)
      (hpattern : Optionally .match TextSpelled pattern ts₂)
      (hreplace : Optionally .replace TextSpelled replace ts₃)
      (hmatch : replace.isSome → pattern.isSome) :
      Spelled ⟨selector, take, pattern, replace⟩ (ts ++ (ts₁ ++ (ts₂ ++ ts₃)))

/-! ## 3. Expressions -/

/-- How tight an expression binds, from loose to tight. -/
inductive Level where
  | or | and | not | comparison | sum | product | primary
deriving DecidableEq

namespace Level

/-- The operators of a level. -/
def op? : Level → Token → Option Operator
  | or => Parser.orOp?
  | and => Parser.andOp?
  | comparison => Parser.comparisonOp?
  | sum => Parser.sumOp?
  | product => Parser.productOp?
  | not | primary => fun _ => none

/-- The level of the operands of a level. -/
def next : Level → Level
  | or => and
  | and => not
  | not => comparison
  | comparison => sum
  | sum => product
  | product | primary => primary

/-- The place of a level, from loose to tight. -/
def rank : Level → Nat
  | or => 0
  | and => 1
  | not => 2
  | comparison => 3
  | sum => 4
  | product => 5
  | primary => 6

/-- Whether any number of operators of the level may follow each other. -/
def isChain : Level → Bool
  | or | and | sum | product => true
  | not | comparison | primary => false

/-- Whether an expression of a tighter level is one of the level without more. -/
def isLoose : Level → Bool
  | not | comparison => true
  | or | and | sum | product | primary => false

end Level

/-- A token that is an expression by itself. -/
def Token.literal? : Token → Option Value
  | .float x => some (.float x)
  | .integer n => some (.integer n)
  | .string text => some (.string text)
  | .boolean b => some (.boolean b)
  | .null => some .null
  | _ => none

/-- Whether branches have a condition at all. -/
def Branches.hasCondition : Branches → Bool
  | .branch .. => true
  | .done | .otherwise _ => false

/-- A part of an expression. -/
inductive Phrase where
  /-- An expression that binds as tight as a level. -/
  | expr (level : Level) (e : Expr)
  /-- The operators and operands of a level that turn what stands on their left into the whole. -/
  | tail (level : Level) (left whole : Expr)
  /-- The branches of a case. -/
  | branches (b : Branches)

/-- The lexemes spell the phrase. -/
inductive Phrase.Spelled : Phrase → List Lexeme → Prop where
  | literal {l : Lexeme} {v : Value} (hl : l.token.literal? = some v) :
      Spelled (.expr .primary (.literal v)) [l]
  | column {l : Lexeme} {name : String} (hl : l.token = .identifier name) :
      Spelled (.expr .primary (.column name l.position)) [l]
  | pick {l : Lexeme} {p : Pick} {ts : List Lexeme} (hl : l.token = .pick) (hp : p.Spelled ts) :
      Spelled (.expr .primary (.pick p l.position)) (l :: ts)
  | simpleCase {l : Lexeme} {subject : Expr} {b : Branches} {ts ts' : List Lexeme}
      (hl : l.token = .case) (hsubject : Spelled (.expr .or subject) ts)
      (hb : Spelled (.branches b) ts') (hcondition : b.hasCondition) :
      Spelled (.expr .primary (.simpleCase subject b l.position)) (l :: (ts ++ ts'))
  | searchedCase {l : Lexeme} {b : Branches} {ts : List Lexeme} (hl : l.token = .case)
      (hb : Spelled (.branches b) ts) (hcondition : b.hasCondition) :
      Spelled (.expr .primary (.searchedCase b l.position)) (l :: ts)
  | parens {l r : Lexeme} {e : Expr} {ts : List Lexeme} (hl : l.token = .lparen)
      (he : Spelled (.expr .or e) ts) (hr : r.token = .rparen) :
      Spelled (.expr .primary e) (l :: (ts ++ [r]))
  | minus {l : Lexeme} {e : Expr} {ts : List Lexeme} (hl : l.token = .minus)
      (he : Spelled (.expr .primary e) ts) :
      Spelled (.expr .primary (Parser.negate l.position e)) (l :: ts)
  | loose {level : Level} {e : Expr} {ts : List Lexeme} (hlevel : level.isLoose)
      (he : Spelled (.expr level.next e) ts) : Spelled (.expr level e) ts
  | not {l : Lexeme} {e : Expr} {ts : List Lexeme} (hl : l.token = .not)
      (he : Spelled (.expr .not e) ts) : Spelled (.expr .not (.not e)) (l :: ts)
  | comparison {l : Lexeme} {op : Operator} {left right : Expr} {ts ts' : List Lexeme}
      (hleft : Spelled (.expr .sum left) ts) (hop : Parser.comparisonOp? l.token = some op)
      (hright : Spelled (.expr .sum right) ts') :
      Spelled (.expr .comparison (.binary op left right l.position)) (ts ++ l :: ts')
  | chain {level : Level} {first whole : Expr} {ts ts' : List Lexeme} (hlevel : level.isChain)
      (hfirst : Spelled (.expr level.next first) ts) (htail : Spelled (.tail level first whole) ts') :
      Spelled (.expr level whole) (ts ++ ts')
  | stop {level : Level} {e : Expr} : Spelled (.tail level e e) []
  | step {level : Level} {l : Lexeme} {op : Operator} {left right whole : Expr}
      {ts ts' : List Lexeme} (hop : level.op? l.token = some op)
      (hright : Spelled (.expr level.next right) ts)
      (htail : Spelled (.tail level (.binary op left right l.position) whole) ts') :
      Spelled (.tail level left whole) (l :: (ts ++ ts'))
  | done {l : Lexeme} (hl : l.token = .end) : Spelled (.branches .done) [l]
  | otherwise {l r : Lexeme} {e : Expr} {ts : List Lexeme} (hl : l.token = .else)
      (he : Spelled (.expr .or e) ts) (hr : r.token = .end) :
      Spelled (.branches (.otherwise e)) (l :: (ts ++ [r]))
  | branch {l m : Lexeme} {condition result : Expr} {b : Branches} {ts ts' ts'' : List Lexeme}
      (hl : l.token = .when) (hcondition : Spelled (.expr .or condition) ts) (hm : m.token = .then)
      (hresult : Spelled (.expr .or result) ts') (hb : Spelled (.branches b) ts'') :
      Spelled (.branches (.branch condition result b)) (l :: (ts ++ m :: (ts' ++ ts'')))

/-- The lexemes spell the expression. -/
def Expr.Spelled (e : Expr) (ts : List Lexeme) : Prop := (Phrase.expr .or e).Spelled ts

/-! ## 4. Selects -/

/-- The number of threads in a hint. -/
inductive CountSpelled : Int64 → List Lexeme → Prop where
  | intro {l : Lexeme} {count : Int64} (hl : l.token = .integer count) : CountSpelled count [l]

inductive Hint.Spelled : Hint → List Lexeme → Prop where
  | js {l : Lexeme} (hl : l.token.isWord "js") : Spelled .js [l]
  | thread {l : Lexeme} {count : Int64} {ts : List Lexeme} (hl : l.token.isWord "thread")
      (hcount : Enclosed CountSpelled count ts) : Spelled (.thread count l.position) (l :: ts)

/-- The hints of any number of `with` clauses. -/
inductive HintsSpelled : List Hint → List Lexeme → Prop where
  | none : HintsSpelled [] []
  | clause {l : Lexeme} {hints more : List Hint} {ts ts' : List Lexeme} (hl : l.token = .with)
      (hhints : Enclosed (Listed Hint.Spelled) hints ts) (hmore : HintsSpelled more ts') :
      HintsSpelled (hints ++ more) (l :: (ts ++ ts'))

inductive Projection.Spelled : Projection → List Lexeme → Prop where
  | star {l : Lexeme} (hl : l.token = .star) : Spelled (.star l.position) [l]
  | item {e : Expr} {label : Option String} {ts ts' : List Lexeme} (he : e.Spelled ts)
      (hlabel : Optionally .as LabelSpelled label ts') : Spelled (.item e label) (ts ++ ts')

/-- The word for a kind of downloads. -/
def DownloadKind.word : DownloadKind → String
  | .page => "page"
  | .json => "json"
  | .image => "image"

/-- Whether a source downloads. -/
def Source.isDownload {ν : Type} : Source ν → Bool
  | .download .. | .downloadEach .. => true
  | .nothing | .buffer .. => false

mutual

/-- The lexemes spell the select. Hints right behind a download belong to the download. -/
inductive Select.Spelled : Select Unit → List Lexeme → Prop where
  | intro {l : Lexeme} {projections : List Projection} {source : Source Unit} {filter : Option Expr}
      {hints : List Hint} {ts ts₁ ts₂ ts₃ : List Lexeme} (hl : l.token = .select)
      (hprojections : Listed Projection.Spelled projections ts) (hsource : Source.Spelled source ts₁)
      (hfilter : Optionally .where Expr.Spelled filter ts₂) (hhints : HintsSpelled hints ts₃)
      (hfollow : source.isDownload → filter = none → hints = []) :
      Select.Spelled ⟨projections, source, filter, hints, l.position, ()⟩
        (l :: (ts ++ (ts₁ ++ (ts₂ ++ ts₃))))

/-- The lexemes spell the source of a select, with the keyword in front. -/
inductive Source.Spelled : Source Unit → List Lexeme → Prop where
  | nothing : Source.Spelled .nothing []
  | buffer {f l : Lexeme} {name : String} (hf : f.token = .from) (hl : l.token = .identifier name) :
      Source.Spelled (.buffer name l.position) [f, l]
  | download {f l k : Lexeme} {kind : DownloadKind} {url : String} {hints : List Hint}
      {ts ts' : List Lexeme} (hf : f.token = .from) (hl : l.token = .download)
      (hk : k.token.isWord kind.word) (hurl : TextSpelled url ts) (hhints : HintsSpelled hints ts') :
      Source.Spelled (.download kind url hints l.position) (f :: l :: k :: (ts ++ ts'))
  | downloadEach {f l k p r : Lexeme} {kind : DownloadKind} {urls : Select Unit} {hints : List Hint}
      {ts ts' : List Lexeme} (hf : f.token = .from) (hl : l.token = .download)
      (hk : k.token.isWord kind.word) (hp : p.token = .lparen) (hurls : Select.Spelled urls ts)
      (hr : r.token = .rparen) (hhints : HintsSpelled hints ts') :
      Source.Spelled (.downloadEach kind urls hints l.position)
        (f :: l :: k :: p :: (ts ++ r :: ts'))

end

/-! ## 5. Programs -/

/-- A column of a declaration. It is the identity if the word follows its type, or is its type. -/
inductive ColumnDecl.Spelled : ColumnDecl → List Lexeme → Prop where
  | plain {l t : Lexeme} {name typeName : String} (hl : l.token = .identifier name)
      (ht : t.token = .identifier typeName) :
      Spelled ⟨name, typeName, typeName.toLower == "identity", l.position⟩ [l, t]
  | identity {l t w : Lexeme} {name typeName : String} (hl : l.token = .identifier name)
      (ht : t.token = .identifier typeName) (hw : w.token.isWord "identity") :
      Spelled ⟨name, typeName, true, l.position⟩ [l, t, w]

/-- The names of the columns of an insert, in parentheses. -/
inductive TargetsSpelled : Option (List String) → List Lexeme → Prop where
  | none : TargetsSpelled none []
  | some {l r : Lexeme} {names : List String} {ts : List Lexeme} (hl : l.token = .lparen)
      (hnames : Listed NameSpelled names ts) (hr : r.token = .rparen) :
      TargetsSpelled (some names) (l :: (ts ++ [r]))

inductive Statement.Spelled : Statement Unit → List Lexeme → Prop where
  | createBuffer {l b p r : Lexeme} {name : String} {columns : List ColumnDecl}
      {ts ts' : List Lexeme} (hl : l.token = .create) (hb : b.token = .buffer)
      (hname : NameSpelled name ts) (hp : p.token = .lparen)
      (hcolumns : Listed ColumnDecl.Spelled columns ts') (hr : r.token = .rparen) :
      Spelled (.createBuffer name columns l.position) (l :: b :: (ts ++ p :: (ts' ++ [r])))
  | insert {l i : Lexeme} {target : String} {columns : Option (List String)} {select : Select Unit}
      {ts ts' ts'' : List Lexeme} (hl : l.token = .insert) (hi : i.token = .into)
      (htarget : NameSpelled target ts) (hcolumns : TargetsSpelled columns ts')
      (hselect : select.Spelled ts'') :
      Spelled (.insert target columns select l.position) (l :: i :: (ts ++ (ts' ++ ts'')))
  | select {select : Select Unit} {ts : List Lexeme} (hselect : select.Spelled ts) :
      Spelled (.select select) ts

/-- The lexemes spell the statements of a program, with any semicolons around them. -/
inductive Program.Spelled : Program Unit → List Lexeme → Prop where
  | nil : Spelled [] []
  | semicolon {l : Lexeme} {p : Program Unit} {ts : List Lexeme} (hl : l.token = .semicolon)
      (hp : Spelled p ts) : Spelled p (l :: ts)
  | statement {s : Statement Unit} {p : Program Unit} {ts ts' : List Lexeme} (hs : s.Spelled ts)
      (hp : Spelled p ts') : Spelled (s :: p) (ts ++ ts')

theorem Program.Spelled.append {p q : Program Unit} {ts us : List Lexeme}
    (hp : Program.Spelled p ts) (hq : Program.Spelled q us) :
    Program.Spelled (p ++ q) (ts ++ us) := by
  induction hp with
  | nil => exact hq
  | semicolon hl _ ih => exact .semicolon hl ih
  | statement hs _ ih =>
    rw [List.append_assoc]
    exact .statement hs ih

end Quarry.Script
