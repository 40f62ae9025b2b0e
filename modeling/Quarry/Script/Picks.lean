import Quarry.Script.Statement

/-!
The picks of a select, and the counts of what a script holds.
-/

namespace Quarry.Script

mutual

def Expr.picks : Expr → List Position
  | .literal _ | .column _ _ => []
  | .pick _ position => [position]
  | .simpleCase subject branches _ => subject.picks ++ branches.picks
  | .searchedCase branches _ => branches.picks
  | .binary _ left right _ => left.picks ++ right.picks
  | .not operand => operand.picks

def Branches.picks : Branches → List Position
  | .done => []
  | .otherwise result => result.picks
  | .branch condition result rest => condition.picks ++ result.picks ++ rest.picks

end

def Projection.picks : Projection → List Position
  | .star _ => []
  | .item expr _ => expr.picks

/-- The places of the picks in the projections and the filter of a select, not in a url query. -/
def Select.picks {ν : Type} (s : Select ν) : List Position :=
  s.projections.flatMap Projection.picks ++ (s.filter.map Expr.picks).getD []

/-- What a script holds: statements by kind, and downloads and picks at every depth. -/
structure Summary where
  buffers : Nat
  inserts : Nat
  selects : Nat
  downloads : Nat
  picks : Nat
deriving DecidableEq, Repr

mutual

def Select.counts {ν : Type} : Select ν → Nat × Nat
  | ⟨projections, source, filter, _, _, _⟩ =>
    let own := (projections.flatMap Projection.picks).length +
      ((filter.map Expr.picks).getD []).length
    let (downloads, picks) := source.counts
    (downloads, own + picks)

def Source.counts {ν : Type} : Source ν → Nat × Nat
  | .nothing | .buffer _ _ => (0, 0)
  | .download .. => (1, 0)
  | .downloadEach _ urls _ _ =>
    let (downloads, picks) := urls.counts
    (downloads + 1, picks)

end

namespace Summary

def zero : Summary := ⟨0, 0, 0, 0, 0⟩

def addSelect {ν : Type} (s : Summary) (select : Select ν) : Summary :=
  let (downloads, picks) := select.counts
  { s with downloads := s.downloads + downloads, picks := s.picks + picks }

def addStatement {ν : Type} (s : Summary) : Statement ν → Summary
  | .createBuffer .. => { s with buffers := s.buffers + 1 }
  | .insert _ _ select _ => { s with inserts := s.inserts + 1 }.addSelect select
  | .select select => { s with selects := s.selects + 1 }.addSelect select

def ofProgram {ν : Type} (program : Program ν) : Summary := program.foldl addStatement zero

end Summary

end Quarry.Script
