/-!
JSON documents. The members of an object are kept in the order of their keys, each key once.
-/

namespace Quarry

/-- A number of a document: a whole number in the range of 64 bits, signed or not, or a float. -/
inductive JsonNumber where
  | integer (value : Int)
  | float (value : Float)
deriving DecidableEq

inductive Json where
  | null
  | boolean (value : Bool)
  | number (value : JsonNumber)
  | string (value : String)
  | array (items : List Json)
  | object (members : List (String × Json))

namespace Json

/-- Puts a member into a list of members in the order of keys. A key that is there already gets
the new value. -/
def insertMember {α : Type} (key : String) (value : α) : List (String × α) → List (String × α)
  | [] => [(key, value)]
  | (k, v) :: rest =>
    if key < k then (key, value) :: (k, v) :: rest
    else if key = k then (key, value) :: rest
    else (k, v) :: insertMember key value rest

/-- Members in the order of their keys. Of equal keys the last one counts. -/
def sortMembers {α : Type} (members : List (String × α)) : List (String × α) :=
  members.foldl (fun sorted (key, value) => insertMember key value sorted) []

end Json

end Quarry
