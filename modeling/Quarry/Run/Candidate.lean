import Quarry.Run.Extractor

/-!
Candidates: what the operands of a select read while one row is computed, and the values of
operands.
-/

namespace Quarry

/-- What stands behind a row: nothing, a row of a buffer, a place of a page, an image, an object of
a JSON answer, or a wire that could not be fetched. -/
inductive Candidate where
  | alone
  | stored (cells : List Value)
  | page (page : DownloadedPage) (place : Page.Spot)
  | image (image : DownloadedImage)
  | object (properties : Properties)
  | failed (url : String)

namespace Candidate

def size (bytes : Nat) : Value := .integer (Int64.ofNat (min bytes (Nat.pow 2 63 - 1)))

def column : Candidate → Nat → Value
  | stored cells, index => cells[index]?.getD .null
  | _, _ => .null

/-- The value of a field. Of a wire that failed only the address is known. -/
def field : Candidate → PageField → Value
  | page p _, .url => .string p.url
  | page p _, .size => size p.size
  | page p _, .date => .string p.moment
  | image i, .url => .string i.url
  | image i, .size => size i.size
  | image i, .date => .string i.moment
  | image i, .filename => .string i.filename
  | failed url, .url => .string url
  | _, _ => .null

def property : Candidate → String → Value
  | object properties, name => ((properties.lookup name).map Value.string).getD .null
  | _, _ => .null

def extract (x : Extractor) : Candidate → Extraction → Except RunError Value
  | page _ place, e => x.extract e place
  | _, _ => .ok .null

end Candidate

mutual

/-- The value of an operand. The right side of `and` and `or` is left alone if the left side
decides. -/
def Operand.eval (x : Extractor) (row : Candidate) : Operand → Except RunError Value
  | .literal value => .ok value
  | .column index => .ok (row.column index)
  | .field field => .ok (row.field field)
  | .property name => .ok (row.property name)
  | .extract extraction => row.extract x extraction
  | .simpleCase subject arms => do arms.eval x row (some (← subject.eval x row))
  | .searchedCase arms => arms.eval x row none
  | .binary .and left right => do
    if (← left.eval x row).isTruthy then return .boolean (← right.eval x row).isTruthy
    else return .boolean false
  | .binary .or left right => do
    if (← left.eval x row).isTruthy then return .boolean true
    else return .boolean (← right.eval x row).isTruthy
  | .binary op left right => do
    let a ← left.eval x row
    let b ← right.eval x row
    (op.apply a b).mapError .operator
  | .not operand => do
    match ← operand.eval x row with
    | .null => return .null
    | value => return .boolean (!value.isTruthy)

/-- The value of the first branch that hits: its condition equals the subject, or holds where there
is no subject. -/
def Arms.eval (x : Extractor) (row : Candidate) (subject : Option Value) :
    Arms → Except RunError Value
  | .done => .ok .null
  | .otherwise result => result.eval x row
  | .arm condition result rest => do
    let value ← condition.eval x row
    let hit := match subject with
      | some subject => (subject.looseEq? value).getD false
      | none => value.isTruthy
    if hit then result.eval x row else rest.eval x row subject

end

end Quarry
