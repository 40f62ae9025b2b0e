import Quarry.Analysis.Nodes
import Quarry.Analysis.Typing
import Quarry.Script.Picks
import Quarry.Table.Basic

/-!
Settled scripts: every name has a meaning, every operator fits its operands, and each select
carries its columns and hints. Statements are settled in order, each against the buffers declared
before it.
-/

namespace Quarry

open Script

/-- What a select carries once it is settled. -/
structure Settled where
  columns : List Column
  threads : Option Nat
  js : Bool
  nodes : Option String
deriving DecidableEq

/-! ## 1. Selects -/

/-- The hints of a download come before those of the statement around it. -/
def downloadHints {ν : Type} : Source ν → List Hint
  | .download _ _ hints _ | .downloadEach _ _ hints _ => hints
  | _ => []

/-- The thread count and the script flag of a list of hints. The first thread count holds; none
may be below one. -/
def settleHints : List Hint → Except CompileError (Option Nat × Bool)
  | [] => .ok (none, false)
  | .js :: rest => do
    let (threads, _) ← settleHints rest
    return (threads, true)
  | .thread count position :: rest =>
    if count.toInt < 1 then .error ⟨position, .invalidThreadHint count⟩
    else do
      let (_, js) ← settleHints rest
      return (some count.toInt.toNat, js)

def projectionColumns (scope : Scope) : Projection → Except CompileError (List (String × ValueType))
  | .star position =>
    match scope with
    | .empty | .json => .error ⟨position, .starWithoutSource⟩
    | .buffer schema => .ok (schema.columns.map fun c => (c.name, c.type))
    | .page | .image => .ok (scope.fields.map fun f => (f.name, f.type))
  | .item expr label => do
    let t ← expr.infer scope
    return [((label <|> expr.name?).getD Column.unnamed, t)]

def selectColumns (scope : Scope) (projections : List Projection) :
    Except CompileError (List Column) := do
  let columns ← projections.mapM (projectionColumns scope)
  return columns.flatten.mapIdx fun ordinal (label, type) => { label, ordinal, type }

/-- The selector of the rows and the conditions of a filter. Only the filter of a page has a
selector. -/
def splitFilter (scope : Scope) (filter : Option Expr) : Option String × Option Expr :=
  match scope, filter with
  | .page, some filter => filter.liftNodes
  | _, _ => (none, filter)

mutual

def Script.Select.settle (catalog : Catalog) :
    Select Unit → Except CompileError (Select Settled)
  | ⟨projections, source, filter, hints, position, _⟩ => do
    let source ← source.settle catalog
    let scope ← Scope.ofSource catalog source
    let (threads, js) ← settleHints (downloadHints source ++ hints)
    let (nodes, filter) := splitFilter scope filter
    if scope ≠ .page then
      match projections.flatMap Projection.picks ++ (filter.map Expr.picks).getD [] with
      | pick :: _ => throw ⟨pick, .pickWithoutDocument⟩
      | [] => pure ()
    let columns ← selectColumns scope projections
    if let some condition := filter then
      let _ ← condition.infer scope
    let note := { columns, threads, js, nodes }
    return { projections, source, filter, hints, position, note }

/-- Settles a source. A url query has one column. -/
def Script.Source.settle (catalog : Catalog) :
    Source Unit → Except CompileError (Source Settled)
  | .nothing => .ok .nothing
  | .buffer name position => .ok (.buffer name position)
  | .download kind url hints position => .ok (.download kind url hints position)
  | .downloadEach kind urls hints position => do
    let urls ← urls.settle catalog
    let found := urls.note.columns.length
    if found ≠ 1 then throw ⟨urls.position, .wireColumnCount found⟩
    return .downloadEach kind urls hints position

end

/-! ## 2. Declarations and inserts -/

def declareColumns (buffer : String) :
    List ColumnDecl → List BufferColumn → Except CompileError (List BufferColumn)
  | [], columns => .ok columns
  | d :: rest, columns => do
    let some type := ValueType.ofName? d.typeName
      | throw ⟨d.position, .unknownType d.name d.typeName⟩
    if d.identity then
      if columns.any BufferColumn.identity then throw ⟨d.position, .multipleIdentity buffer⟩
      if type ≠ .integer then
        throw ⟨d.position, .typeMismatch s!"identity column '{d.name}'" .integer type⟩
    declareColumns buffer rest (columns ++ [⟨d.name, type, d.identity⟩])

def declaredSchema (buffer : String) (columns : List ColumnDecl) : Except CompileError Schema :=
  Schema.mk <$> declareColumns buffer columns []

def nameTargets (buffer : String) (schema : Schema) (position : Position) :
    List String → List Nat → Except CompileError (List Nat)
  | [], targets => .ok targets
  | name :: rest, targets => do
    let some index := schema.position? name
      | throw ⟨position, .unknownColumn buffer name⟩
    if ((schema.columns[index]?).map BufferColumn.identity).getD false then
      throw ⟨position, .identityInsert buffer name⟩
    if index ∈ targets then throw ⟨position, .duplicateColumn buffer name⟩
    nameTargets buffer schema position rest (targets ++ [index])

def insertTargets (buffer : String) (schema : Schema) (columns : Option (List String))
    (position : Position) : Except CompileError (List Nat) :=
  match columns with
  | none => .ok schema.insertable
  | some names => nameTargets buffer schema position names []

def checkTypes (buffer : String) (schema : Schema) (position : Position) :
    List (Nat × Column) → Except CompileError Unit
  | [] => .ok ()
  | (index, produced) :: rest => do
    if let some column := schema.columns[index]? then
      unless column.type.accepts produced.type do
        throw ⟨position, .typeMismatch s!"column '{column.name}' of buffer '{buffer}'"
          column.type produced.type⟩
    checkTypes buffer schema position rest

/-! ## 3. Scripts -/

def Script.Statement.settle (catalog : Catalog) :
    Statement Unit → Except CompileError (Statement Settled × Catalog)
  | .createBuffer name columns position => do
    if (catalog.find? name).isSome then throw ⟨position, .duplicateBuffer name⟩
    let schema ← declaredSchema name columns
    return (.createBuffer name columns position, catalog ++ [(name, schema)])
  | .insert target columns query position => do
    let some schema := catalog.find? target
      | throw ⟨position, .unknownBuffer target⟩
    let query ← query.settle catalog
    let targets ← insertTargets target schema columns position
    let produced := query.note.columns
    if targets.length ≠ produced.length then
      throw ⟨position, .columnCount target targets.length produced.length⟩
    checkTypes target schema position (targets.zip produced)
    return (.insert target columns query position, catalog)
  | .select query => do
    return (.select (← query.settle catalog), catalog)

def settleFrom : Catalog → Program Unit → Except CompileError (Program Settled)
  | _, [] => .ok []
  | catalog, statement :: rest => do
    let (statement, catalog) ← statement.settle catalog
    return statement :: (← settleFrom catalog rest)

def settle (program : Program Unit) : Except CompileError (Program Settled) :=
  settleFrom [] program

end Quarry
