import Quarry.Script.Picks

/-!
# Parts of scripts

The selects within a statement, the expressions of a select and the expressions within an expression.
-/

namespace Quarry.Script

variable {ν : Type}

/-! ## 1. Expressions -/

mutual

/-- An expression and the expressions within it, from left to right. -/
def Expr.parts : Expr → List Expr
  | .simpleCase subject branches position =>
      .simpleCase subject branches position :: (subject.parts ++ branches.parts)
  | .searchedCase branches position => .searchedCase branches position :: branches.parts
  | .binary op left right position => .binary op left right position :: (left.parts ++ right.parts)
  | .not operand => .not operand :: operand.parts
  | e => [e]

/-- The expressions within the branches of a case. -/
def Branches.parts : Branches → List Expr
  | .done => []
  | .otherwise result => result.parts
  | .branch condition result rest => condition.parts ++ result.parts ++ rest.parts

end

/-- The results of the branches of a case. -/
def Branches.results : Branches → List Expr
  | .done => []
  | .otherwise result => [result]
  | .branch _ result rest => result :: rest.results

/-- The place of a pick. -/
def Expr.pickPlace? : Expr → Option Position
  | .pick _ position => some position
  | _ => none

mutual

/-- The picks of an expression are those of its parts. -/
theorem Expr.picks_eq : (e : Expr) → e.picks = e.parts.filterMap Expr.pickPlace?
  | .literal _ | .column _ _ | .pick _ _ => rfl
  | .simpleCase subject b _ => by
    rw [Expr.picks, Expr.parts, List.filterMap_cons_none rfl, List.filterMap_append, subject.picks_eq,
      b.picks_eq]
  | .searchedCase b _ => by rw [Expr.picks, Expr.parts, List.filterMap_cons_none rfl, b.picks_eq]
  | .binary _ left right _ => by
    rw [Expr.picks, Expr.parts, List.filterMap_cons_none rfl, List.filterMap_append, left.picks_eq,
      right.picks_eq]
  | .not operand => by rw [Expr.picks, Expr.parts, List.filterMap_cons_none rfl, operand.picks_eq]

theorem Branches.picks_eq : (b : Branches) → b.picks = b.parts.filterMap Expr.pickPlace?
  | .done => rfl
  | .otherwise result => result.picks_eq
  | .branch condition result rest => by
    rw [Branches.picks, Branches.parts, List.filterMap_append, List.filterMap_append, condition.picks_eq,
      result.picks_eq, rest.picks_eq]

end

/-- A pick at a place is a part of the expression. -/
theorem Expr.exists_of_mem_picks {e : Expr} {position : Position} (h : position ∈ e.picks) :
    ∃ pick, .pick pick position ∈ e.parts := by
  rw [e.picks_eq] at h
  obtain ⟨x, hx, hplace⟩ := List.mem_filterMap.mp h
  cases x with
  | pick pick p =>
    cases hplace
    exact ⟨pick, hx⟩
  | _ => cases hplace

/-! ## 2. Selects -/

/-- The expression of a projection. A star has none. -/
def Projection.expr? : Projection → Option Expr
  | .star _ => none
  | .item e _ => some e

/-- The expressions of a select: its projections and its filter, not those of a url query. -/
def Select.expressions (q : Select ν) : List Expr :=
  q.projections.filterMap Projection.expr? ++ q.filter.toList

mutual

/-- A select and the url queries within it, the outer ones first. -/
def Select.selects : Select ν → List (Select ν)
  | ⟨projections, source, filter, hints, position, note⟩ =>
      ⟨projections, source, filter, hints, position, note⟩ :: source.selects

/-- The url queries of a source. -/
def Source.selects : Source ν → List (Select ν)
  | .downloadEach _ urls _ _ => urls.selects
  | .nothing | .buffer .. | .download .. => []

end

/-- The selects of a statement at every depth. -/
def Statement.selects : Statement ν → List (Select ν)
  | .createBuffer .. => []
  | .insert _ _ query _ | .select query => query.selects

theorem Select.self_mem_selects (q : Select ν) : q ∈ q.selects := by
  cases q
  rw [Select.selects]
  exact List.mem_cons_self

end Quarry.Script
