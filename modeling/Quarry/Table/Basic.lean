import Quarry.Value.Basic

/-!
Result tables: rows of cells under a fixed list of columns.
-/

namespace Quarry

structure Column where
  label : String
  ordinal : Nat
  type : ValueType
deriving DecidableEq, Repr

def Column.unnamed : String := "(No column name)"

structure WidthError where
  expected : Nat
  found : Nat
deriving DecidableEq, Repr

def WidthError.message (e : WidthError) : String :=
  s!"row has {e.found} cell(s), table has {e.expected} column(s)"

structure Table where
  columns : List Column
  rows : Array (List Value)
  width_eq : ∀ row ∈ rows, row.length = columns.length

namespace Table

def empty (columns : List Column) : Table where
  columns := columns
  rows := #[]
  width_eq := by simp

def push (t : Table) (row : List Value) : Except WidthError Table :=
  if h : row.length = t.columns.length then
    .ok { t with
      rows := t.rows.push row
      width_eq := fun r hr => by
        rcases Array.mem_push.1 hr with hr | rfl
        · exact t.width_eq r hr
        · exact h }
  else .error ⟨t.columns.length, row.length⟩

def labels (t : Table) : List String := t.columns.map Column.label

def cell? (t : Table) (row column : Nat) : Option Value := t.rows[row]? >>= (·[column]?)

def present? (t : Table) (row column : Nat) : Option Value :=
  (t.cell? row column).filter fun v => !v.isNull

end Table

end Quarry
