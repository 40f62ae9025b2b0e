import Quarry.Script.Expr

/-!
Statements of the script language. A select carries a note, which is empty as read and holds
what analysis settled afterwards.
-/

namespace Quarry.Script

inductive DownloadKind where
  | page
  | json
  | image
deriving DecidableEq, Repr

inductive Hint where
  | thread (count : Int64) (position : Position)
  | js
deriving DecidableEq, Repr

inductive Projection where
  | star (position : Position)
  | item (expr : Expr) (label : Option String)
deriving DecidableEq

mutual

/-- `select projections [from source] [where filter] [with hints]`. -/
structure Select (ν : Type) where
  projections : List Projection
  source : Source ν
  filter : Option Expr
  hints : List Hint
  position : Position
  note : ν

/-- Where the rows of a select come from: nowhere, a buffer, one download, or one download for
each row of a query. -/
inductive Source (ν : Type) where
  | nothing
  | buffer (name : String) (position : Position)
  | download (kind : DownloadKind) (url : String) (hints : List Hint) (position : Position)
  | downloadEach (kind : DownloadKind) (urls : Select ν) (hints : List Hint) (position : Position)

end

deriving instance DecidableEq for Select, Source

/-- One column of a buffer declaration, its type as written. -/
structure ColumnDecl where
  name : String
  typeName : String
  identity : Bool
  position : Position
deriving DecidableEq, Repr

inductive Statement (ν : Type) where
  | createBuffer (name : String) (columns : List ColumnDecl) (position : Position)
  | insert (target : String) (columns : Option (List String)) (select : Select ν)
      (position : Position)
  | select (select : Select ν)
deriving DecidableEq

abbrev Program (ν : Type) := List (Statement ν)

end Quarry.Script
