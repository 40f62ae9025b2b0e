import Quarry.Json.Parser
import Quarry.Json.Printer

/-!
The rows of a JSON response: one for each item of an array, one for an object, none for anything
else. A row has a text for each key, in the order of keys.
-/

namespace Quarry

abbrev Properties := List (String × String)

namespace Json

/-- The text of a property: that of a string, or else the document on one line. -/
def propertyText : Json → String
  | string s => s
  | document => document.compact

/-- The row of an item. What is no object stands under the key `value`. -/
def properties : Json → Properties
  | object members => members.map fun (key, value) => (key, value.propertyText)
  | item => [("value", item.compact)]

def rows : Json → List Properties
  | array items => items.map properties
  | object members => [properties (object members)]
  | _ => []

def rowsOfBytes? (body : ByteArray) : Option (List Properties) := do
  let text ← String.fromUTF8? body
  let document ← parse? text
  return document.rows

end Json

end Quarry
