import Quarry.Table.Document
import Quarry.Table.Grid

/-!
The two written forms of a table: a grid with the number of its rows, or a line of JSON.
-/

namespace Quarry

inductive OutputFormat where
  | text
  | json
deriving DecidableEq, Repr

def OutputFormat.ofName? : String → Option OutputFormat
  | "text" => some .text
  | "json" => some .json
  | _ => none

/-- The written form of a table. A pretty document has a line for each cell. -/
def Table.render (format : OutputFormat) (pretty : Bool) (t : Table) : String :=
  match format with
  | .text => Grid.drawCounted t
  | .json => (if pretty then t.toJson.pretty else t.toJson.compact) ++ "\n"

end Quarry
