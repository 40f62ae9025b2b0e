import Quarry.Plan.Basic

/-!
# Parts of plans

The selects within a step and what their operands read.
-/

namespace Quarry

/-! ## 1. Selects -/

mutual

/-- A select and the url queries within it, the outer ones first. -/
def SelectStep.selects : SelectStep → List SelectStep
  | ⟨columns, projections, source, filter⟩ =>
    ⟨columns, projections, source, filter⟩ :: source.selects

/-- The url queries of a source. -/
def SourceStep.selects : SourceStep → List SelectStep
  | .downloadEach _ urls _ => urls.selects
  | .single | .buffer _ | .download .. => []

end

/-- The selects of a step at every depth. -/
def Step.selects : Step → List SelectStep
  | .createBuffer .. => []
  | .insert _ _ query | .select query => query.selects

theorem SelectStep.self_mem_selects (q : SelectStep) : q ∈ q.selects := by
  cases q
  rw [SelectStep.selects]
  exact List.mem_cons_self

/-- Whether a source downloads pages. -/
def SourceStep.isPage : SourceStep → Bool
  | .download .page .. | .downloadEach .page .. => true
  | _ => false

/-! ## 2. Operands -/

mutual

/-- An operand and the operands within it. -/
def Operand.parts : Operand → List Operand
  | .simpleCase subject arms => .simpleCase subject arms :: (subject.parts ++ arms.parts)
  | .searchedCase arms => .searchedCase arms :: arms.parts
  | .binary op left right => .binary op left right :: (left.parts ++ right.parts)
  | .not operand => .not operand :: operand.parts
  | operand => [operand]

/-- The operands within the branches of a case. -/
def Arms.parts : Arms → List Operand
  | .done => []
  | .otherwise result => result.parts
  | .arm condition result rest => condition.parts ++ result.parts ++ rest.parts

end

theorem Operand.self_mem_parts (o : Operand) : o ∈ o.parts := by
  cases o <;> simp [Operand.parts]

/-- The operands that a select computes for a row: its projections and its filter. -/
def SelectStep.operands (q : SelectStep) : List Operand := q.projections ++ q.filter.toList

/-! ## 3. Declarations -/

/-- The buffer that a step creates. -/
def Step.declares : Step → Option (String × Schema)
  | .createBuffer name schema => some (name, schema)
  | .insert .. | .select _ => none

/-- The buffers that the steps of a plan create, in order. -/
def Plan.catalog (plan : Plan) : Catalog := plan.filterMap Step.declares

theorem Plan.catalog_cons (step : Step) (rest : Plan) :
    Plan.catalog (step :: rest) = step.declares.toList ++ Plan.catalog rest := by
  unfold Plan.catalog
  -- Only a step that creates a buffer adds to the catalog.
  cases hdeclares : step.declares with
  | none =>
    rw [List.filterMap_cons_none hdeclares]
    rfl
  | some entry =>
    rw [List.filterMap_cons_some hdeclares]
    rfl

end Quarry
