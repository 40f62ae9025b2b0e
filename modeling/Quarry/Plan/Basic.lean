import Quarry.Analysis.Scope
import Quarry.Table.Basic
import Quarry.Value.Operator

/-!
Plans: scripts with every name replaced by what it stands for. A plan can be run any number of
times.
-/

namespace Quarry

open Script

/-- What to take from the first element that a selector finds, and how to cut it. -/
structure Extraction where
  selector : String
  part : Take
  pattern : Option String
  template : Option String
deriving DecidableEq, Repr

mutual

inductive Operand where
  | literal (value : Value)
  | column (index : Nat)
  | field (field : PageField)
  | property (name : String)
  | extract (extraction : Extraction)
  | simpleCase (subject : Operand) (arms : Arms)
  | searchedCase (arms : Arms)
  | binary (op : Operator) (left right : Operand)
  | not (operand : Operand)

inductive Arms where
  | done
  | otherwise (result : Operand)
  | arm (condition result : Operand) (rest : Arms)

end

deriving instance DecidableEq for Operand, Arms

mutual

def Operand.extractions : Operand → List Extraction
  | .literal _ | .column _ | .field _ | .property _ => []
  | .extract extraction => [extraction]
  | .simpleCase subject arms => subject.extractions ++ arms.extractions
  | .searchedCase arms => arms.extractions
  | .binary _ left right => left.extractions ++ right.extractions
  | .not operand => operand.extractions

def Arms.extractions : Arms → List Extraction
  | .done => []
  | .otherwise result => result.extractions
  | .arm condition result rest =>
    condition.extractions ++ result.extractions ++ rest.extractions

end

structure FetchOptions where
  threads : Option Nat
  js : Bool
  nodes : Option String
deriving DecidableEq, Repr

mutual

structure SelectStep where
  columns : List Column
  projections : List Operand
  source : SourceStep
  filter : Option Operand

/-- The source of a select: one row without columns, a buffer, or downloads. -/
inductive SourceStep where
  | single
  | buffer (name : String)
  | download (kind : DownloadKind) (url : String) (options : FetchOptions)
  | downloadEach (kind : DownloadKind) (urls : SelectStep) (options : FetchOptions)

end

deriving instance DecidableEq for SelectStep, SourceStep

/-- The extractions of the projections and the filter of a select, not of a url query. -/
def SelectStep.extractions (s : SelectStep) : List Extraction :=
  s.projections.flatMap Operand.extractions ++ (s.filter.map Operand.extractions).getD []

inductive Step where
  | createBuffer (name : String) (schema : Schema)
  | insert (buffer : String) (targets : List Nat) (select : SelectStep)
  | select (select : SelectStep)
deriving DecidableEq

abbrev Plan := List Step

end Quarry
