import Quarry.Json.Printer
import Quarry.Table.Basic

/-!
Tables as JSON documents: an array with one object for each row, keyed by the labels of the
columns. A label that several columns share gets the place of its column, so that each cell has
a key of its own.
-/

namespace Quarry

/-- The value as a document. A float without a JSON form becomes null. -/
def Value.toJson : Value → Json
  | null => .null
  | boolean b => .boolean b
  | integer n => .number (.integer n.toInt)
  | float x => if x.isFinite then .number (.float x) else .null
  | string s => .string s

namespace Table

def keys (t : Table) : List String :=
  t.columns.map fun c =>
    if 1 < t.labels.count c.label then s!"{c.label} {c.ordinal}" else c.label

def rowJson (t : Table) (row : List Value) : Json :=
  .object (Json.sortMembers (t.keys.zip (row.map Value.toJson)))

def toJson (t : Table) : Json := .array (t.rows.toList.map t.rowJson)

end Table

end Quarry
