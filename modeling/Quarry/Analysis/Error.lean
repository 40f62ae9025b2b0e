import Quarry.Script.Position
import Quarry.Value.Type

/-!
Why a script that can be read has no meaning.
-/

namespace Quarry

inductive CompileFault where
  | unknownBuffer (name : String)
  | duplicateBuffer (name : String)
  | unknownIdentifier (name : String)
  | unknownType (column typeName : String)
  | multipleIdentity (buffer : String)
  | identityInsert (buffer column : String)
  | duplicateColumn (buffer column : String)
  | unknownColumn (buffer column : String)
  | columnCount (buffer : String) (expected found : Nat)
  | typeMismatch (context : String) (expected found : ValueType)
  | pickWithoutDocument
  | starWithoutSource
  | invalidThreadHint (count : Int64)
  | wireColumnCount (found : Nat)
deriving DecidableEq

namespace CompileFault

def message : CompileFault → String
  | unknownBuffer name => s!"buffer '{name}' does not exist"
  | duplicateBuffer name => s!"buffer '{name}' is already defined"
  | unknownIdentifier name => s!"unknown column '{name}'"
  | unknownType column typeName => s!"unknown column type '{typeName}' for column '{column}'"
  | multipleIdentity buffer => s!"buffer '{buffer}' declares more than one identity column"
  | identityInsert buffer column =>
    s!"column '{column}' of buffer '{buffer}' is an identity column and cannot be inserted into"
  | duplicateColumn buffer column =>
    s!"column '{column}' of buffer '{buffer}' is listed more than once"
  | unknownColumn buffer column => s!"buffer '{buffer}' has no column '{column}'"
  | columnCount buffer expected found =>
    s!"insert into '{buffer}' expects {expected} column(s), select produces {found}"
  | typeMismatch context expected found =>
    s!"{context}: {expected.name} is not compatible with {found.name}"
  | pickWithoutDocument => "'pick' needs a 'download page' source"
  | starWithoutSource => "'select *' needs a source with known columns"
  | invalidThreadHint count => s!"thread count must be at least 1, got {count.toInt}"
  | wireColumnCount found => s!"a url query must select exactly one column, got {found}"

end CompileFault

structure CompileError where
  position : Script.Position
  fault : CompileFault
deriving DecidableEq

def CompileError.message (e : CompileError) : String :=
  s!"{e.position.describe}: {e.fault.message}"

end Quarry
