import Quarry.Json.Rows
import Quarry.Page.Parse
import Quarry.Page.Spot
import Quarry.Script.Statement
import Quarry.Text.Utf8

/-!
Wires: addresses to fetch, what is answered for them, and what a download makes of an answer.
-/

namespace Quarry

open Script (DownloadKind)

structure Wire where
  url : String
  js : Bool
  threads : Option Nat
deriving DecidableEq, Repr

inductive Answer where
  | body (bytes : ByteArray)
  | status (code : Nat)
  | refused (reason : String)
  | unreachable (reason : String)
  | crash

/-- An answer, with the time it came and a name that no other answer has. -/
structure Delivery where
  answer : Answer
  moment : String
  name : String

inductive FetchFault where
  | status (code : Nat)
  | refused (reason : String)
  | unreachable (reason : String)
  | notJson
  | crashed
  | consumed
deriving DecidableEq, Repr

def FetchFault.message : FetchFault → String
  | status code => s!"server answered with status {code}"
  | refused reason => s!"request failed: {reason}"
  | unreachable reason => reason
  | notJson => "response is not valid JSON"
  | crashed => "worker panicked while fetching"
  | consumed => "row was already consumed"

/-- A page that was downloaded. The size is that of its answer in bytes. -/
structure DownloadedPage where
  url : String
  size : Nat
  moment : String
  root : Page.Spot

/-- An image that was downloaded. It has a file name unless it is empty. -/
structure DownloadedImage where
  url : String
  size : Nat
  moment : String
  filename : String

inductive Content where
  | page (page : DownloadedPage)
  | image (image : DownloadedImage)
  | rows (rows : List Properties)

/-! ## 1. File names -/

/-- The characters behind the last one that passes, if there is one, and those up to it. -/
def splitLast (p : Char → Bool) (cs : List Char) : Option (List Char × List Char) :=
  let behind := (cs.reverse.takeWhile (!p ·)).reverse
  if behind.length = cs.length then none
  else some (behind, cs.take (cs.length - behind.length))

/-- The part of an address that names a file: what is behind the last slash, without a query and a
fragment. -/
def fileSegment (url : List Char) : List Char :=
  let path := url.takeWhile fun c => c != '?' && c != '#'
  match splitLast (· == '/') path with
  | some (behind, _) => behind
  | none => path

/-- The extension of the file that an address names, with its dot. A dot in front of everything
else makes none. -/
def extensionOf (url : String) : String :=
  match splitLast (· == '.') (fileSegment url.toList) with
  | some (_, ['.']) => ""
  | some (behind, _) => .ofList ('.' :: behind)
  | none => ""

/-! ## 2. Contents -/

def Delivery.content (kind : DownloadKind) (wire : Wire) (d : Delivery) :
    Except FetchFault Content :=
  match d.answer with
  | .status code => .error (.status code)
  | .refused reason => .error (.refused reason)
  | .unreachable reason => .error (.unreachable reason)
  | .crash => .error .crashed
  | .body bytes =>
    match kind with
    | .page =>
      let source := String.ofList (Text.ofUtf8Lossy bytes.toList)
      .ok (.page ⟨wire.url, bytes.size, d.moment, .root (Page.parse source)⟩)
    | .image =>
      let filename := if bytes.isEmpty then "" else d.name ++ extensionOf wire.url
      .ok (.image ⟨wire.url, bytes.size, d.moment, filename⟩)
    | .json =>
      match Json.rowsOfBytes? bytes with
      | some rows => .ok (.rows rows)
      | none => .error .notJson

end Quarry
