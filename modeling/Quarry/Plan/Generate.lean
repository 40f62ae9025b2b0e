import Quarry.Analysis.Settled
import Quarry.Plan.Basic
import Quarry.Script.Parser.Statement

/-!
Plans of settled scripts. Names are looked up again, in the buffers declared so far, and become
indices and fields; `*` becomes one operand for each column.
-/

namespace Quarry

open Script

/-- The extraction of a pick. The text is taken unless the pick says otherwise. -/
def Extraction.ofPick (p : Pick) : Extraction where
  selector := p.selector
  part := p.take.getD .text
  pattern := p.pattern
  template := p.replace

def Operand.ofName (scope : Scope) (name : String) (position : Position) :
    Except CompileError Operand :=
  let unknown : Except CompileError Operand := .error ⟨position, .unknownIdentifier name⟩
  match scope with
  | .empty => unknown
  | .buffer schema =>
    match schema.position? name with
    | some index => .ok (.column index)
    | none => unknown
  | .page | .image =>
    match scope.field? name with
    | some f => .ok (.field f)
    | none => unknown
  | .json => .ok (.property name)

mutual

def Operand.ofExpr (scope : Scope) : Expr → Except CompileError Operand
  | .literal value => .ok (.literal value)
  | .column name position => Operand.ofName scope name position
  | .pick pick _ => .ok (.extract (.ofPick pick))
  | .simpleCase subject branches _ => do
    let subject ← Operand.ofExpr scope subject
    return .simpleCase subject (← Arms.ofBranches scope branches)
  | .searchedCase branches _ => .searchedCase <$> Arms.ofBranches scope branches
  | .binary op left right _ => do
    let left ← Operand.ofExpr scope left
    return .binary op left (← Operand.ofExpr scope right)
  | .not operand => .not <$> Operand.ofExpr scope operand

def Arms.ofBranches (scope : Scope) : Branches → Except CompileError Arms
  | .done => .ok .done
  | .otherwise result => .otherwise <$> Operand.ofExpr scope result
  | .branch condition result rest => do
    let condition ← Operand.ofExpr scope condition
    let result ← Operand.ofExpr scope result
    return .arm condition result (← Arms.ofBranches scope rest)

end

/-- The operands of a projection: one for each of its columns. -/
def projectionOperands (scope : Scope) : Projection → Except CompileError (List Operand)
  | .star _ =>
    match scope with
    | .buffer schema => .ok ((List.range schema.columns.length).map .column)
    | _ => .ok (scope.fields.map .field)
  | .item expr _ => do return [← Operand.ofExpr scope expr]

mutual

def SelectStep.ofSelect (catalog : Catalog) :
    Select Settled → Except CompileError SelectStep
  | ⟨projections, source, filter, _, _, note⟩ => do
    let scope ← Scope.ofSource catalog source
    let operands ← projections.mapM (projectionOperands scope)
    let condition ← filter.mapM (Operand.ofExpr scope)
    let options := { threads := note.threads, js := note.js, nodes := note.nodes }
    let source ← SourceStep.ofSource catalog options source
    return {
      columns := note.columns
      projections := operands.flatten
      source
      filter := condition }

def SourceStep.ofSource (catalog : Catalog) (options : FetchOptions) :
    Source Settled → Except CompileError SourceStep
  | .nothing => .ok .single
  | .buffer name _ => .ok (.buffer name)
  | .download kind url _ _ => .ok (.download kind url options)
  | .downloadEach kind urls _ _ => do
    return .downloadEach kind (← SelectStep.ofSelect catalog urls) options

end

def Step.ofStatement (catalog : Catalog) :
    Statement Settled → Except CompileError (Step × Catalog)
  | .createBuffer name columns _ => do
    let schema ← declaredSchema name columns
    return (.createBuffer name schema, catalog ++ [(name, schema)])
  | .insert target columns query position => do
    let some schema := catalog.find? target
      | throw ⟨position, .unknownBuffer target⟩
    let targets ← insertTargets target schema columns position
    return (.insert target targets (← SelectStep.ofSelect catalog query), catalog)
  | .select query => do
    return (.select (← SelectStep.ofSelect catalog query), catalog)

def generateFrom : Catalog → Program Settled → Except CompileError Plan
  | _, [] => .ok []
  | catalog, statement :: rest => do
    let (step, catalog) ← Step.ofStatement catalog statement
    return step :: (← generateFrom catalog rest)

def generate (program : Program Settled) : Except CompileError Plan := generateFrom [] program

inductive ScriptError where
  | syntactic (error : SyntaxError)
  | semantic (error : CompileError)
deriving DecidableEq

namespace ScriptError

def message : ScriptError → String
  | syntactic error => error.message
  | semantic error => error.message

end ScriptError

def check (source : String) : Except ScriptError (Program Settled) := do
  let program ← (parseProgram source).mapError .syntactic
  (settle program).mapError .semantic

def compile (source : String) : Except ScriptError Plan := do
  let program ← check source
  (generate program).mapError .semantic

end Quarry
