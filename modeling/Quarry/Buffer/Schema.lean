import Quarry.Text.Caseless
import Quarry.Value.Type

/-!
The declared columns of a buffer.
-/

namespace Quarry

/-- A column of a buffer. An identity column is filled by the buffer itself. -/
structure BufferColumn where
  name : String
  type : ValueType
  identity : Bool
deriving DecidableEq, Repr

structure Schema where
  columns : List BufferColumn
deriving DecidableEq, Repr, Inhabited

namespace Schema

/-- The index of the first column with the name, in any ASCII letter case. -/
def position? (s : Schema) (name : String) : Option Nat :=
  s.columns.findIdx? fun c => Text.sameName c.name name

def identity? (s : Schema) : Option Nat := s.columns.findIdx? BufferColumn.identity

def insertable (s : Schema) : List Nat :=
  (List.range s.columns.length).filter fun i =>
    (s.columns[i]?.map fun c => !c.identity).getD false

end Schema

end Quarry
