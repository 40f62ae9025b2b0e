import Quarry.Buffer.Schema
import Quarry.Table.Basic
import Quarry.Value.Convert

/-!
Buffers: named tables with typed columns that live for one run of a script. A row is converted
to the types of its columns when it is stored, and the identity column counts the rows.
-/

namespace Quarry

structure Buffer where
  name : String
  schema : Schema
  rows : Array (List Value)

inductive StoreError where
  | unknownBuffer (name : String)
  | duplicateBuffer (name : String)
  | width (error : WidthError)
  | conversion (buffer column text : String) (target : ValueType)
deriving DecidableEq

namespace StoreError

def message : StoreError → String
  | unknownBuffer name => s!"buffer '{name}' does not exist"
  | duplicateBuffer name => s!"buffer '{name}' is already defined"
  | width error => error.message
  | conversion buffer column text target =>
    s!"cannot store '{text}' in {target.name} column '{column}' of buffer '{buffer}'"

end StoreError

namespace Buffer

def nextIdentity (b : Buffer) : Int64 := Int64.ofNat (b.rows.size + 1)

def place (b : Buffer) (row : List Value) (target : Nat) (value : Value) :
    Except StoreError (List Value) :=
  match b.schema.columns[target]? with
  | none => .ok row
  | some column =>
    match value.convert? column.type with
    | some converted => .ok (row.set target converted)
    | none => .error (.conversion b.name column.name value.text column.type)

def placeAll (b : Buffer) : List (Nat × Value) → List Value → Except StoreError (List Value)
  | [], row => .ok row
  | (target, value) :: rest, row => do b.placeAll rest (← b.place row target value)

/-- The row that an insert stores: the values at their targets, null elsewhere, and the identity
last. -/
def buildRow (b : Buffer) (targets : List Nat) (values : List Value) :
    Except StoreError (List Value) := do
  if targets.length ≠ values.length then
    throw (.width ⟨targets.length, values.length⟩)
  let row ← b.placeAll (targets.zip values) (List.replicate b.schema.columns.length .null)
  match b.schema.identity? with
  | some index => return row.set index (.integer b.nextIdentity)
  | none => return row

/-- Appends a row. Returns the buffer and the identity of the row. -/
def insert (b : Buffer) (targets : List Nat) (values : List Value) :
    Except StoreError (Buffer × Option Int64) := do
  let row ← b.buildRow targets values
  return ({ b with rows := b.rows.push row }, b.schema.identity?.map fun _ => b.nextIdentity)

end Buffer

structure Store where
  buffers : List Buffer

namespace Store

def empty : Store := ⟨[]⟩

def get? (s : Store) (name : String) : Option Buffer := s.buffers.find? (·.name == name)

def get (s : Store) (name : String) : Except StoreError Buffer :=
  match s.get? name with
  | some b => .ok b
  | none => .error (.unknownBuffer name)

def create (s : Store) (name : String) (schema : Schema) : Except StoreError Store :=
  match s.get? name with
  | some _ => .error (.duplicateBuffer name)
  | none => .ok ⟨s.buffers ++ [⟨name, schema, #[]⟩]⟩

def replace (s : Store) (buffer : Buffer) : Store :=
  ⟨s.buffers.map fun b => if b.name == buffer.name then buffer else b⟩

def insert (s : Store) (name : String) (targets : List Nat) (values : List Value) :
    Except StoreError (Store × Option Int64) := do
  let b ← s.get name
  let (b, identity) ← b.insert targets values
  return (s.replace b, identity)

end Store

end Quarry
