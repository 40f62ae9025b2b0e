import Quarry.Analysis.Error
import Quarry.Buffer.Schema
import Quarry.Script.Statement

/-!
The names that the expressions of a select can refer to. They come from its source.
-/

namespace Quarry

open Script

/-- A column that every downloaded page or image has on its own. -/
inductive PageField where
  | url
  | size
  | date
  | filename
deriving DecidableEq, Repr

namespace PageField

def name : PageField → String
  | url => "url"
  | size => "size"
  | date => "date"
  | filename => "filename"

def type : PageField → ValueType
  | size => .integer
  | _ => .string

def ofPage : List PageField := [url, size, date]

def ofImage : List PageField := [url, size, date, filename]

end PageField

abbrev Catalog := List (String × Schema)

def Catalog.find? (catalog : Catalog) (name : String) : Option Schema := catalog.lookup name

/-- Where names are looked up. The rows of a JSON download have every name. -/
inductive Scope where
  | empty
  | buffer (schema : Schema)
  | page
  | image
  | json
deriving DecidableEq

namespace Scope

def ofSource {ν : Type} (catalog : Catalog) : Source ν → Except CompileError Scope
  | .nothing => .ok .empty
  | .buffer name position =>
    match catalog.find? name with
    | some schema => .ok (.buffer schema)
    | none => .error ⟨position, .unknownBuffer name⟩
  | .download kind .. | .downloadEach kind .. =>
    match kind with
    | .page => .ok .page
    | .image => .ok .image
    | .json => .ok .json

/-- The columns that a scope has besides those of a buffer. -/
def fields : Scope → List PageField
  | page => PageField.ofPage
  | image => PageField.ofImage
  | _ => []

/-- The field with a name, in any ASCII letter case. -/
def field? (scope : Scope) (name : String) : Option PageField :=
  scope.fields.find? fun f => Text.sameName f.name name

def columnType? (scope : Scope) (name : String) : Option ValueType :=
  match scope with
  | buffer schema => (schema.position? name).bind fun i => schema.columns[i]?.map BufferColumn.type
  | json => some .string
  | _ => (scope.field? name).map PageField.type

end Scope

end Quarry
