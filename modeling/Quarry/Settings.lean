import Quarry.Number.Reading
import Quarry.Text.Blank

/-!
Settings of a run: how many workers download at a time, what a failed download does to its
statement, and how to fetch.
-/

namespace Quarry

/-- What a download does when one of its wires fails: the statement fails with it, or the wire
becomes a row of which only the address is known. -/
inductive FailurePolicy where
  | abort
  | nullRow
deriving DecidableEq, Repr

namespace FailurePolicy

def ofName? (name : String) : Option FailurePolicy :=
  match name.toLower with
  | "abort" | "fail" => some abort
  | "null" | "null-row" | "skip" => some nullRow
  | _ => none

def unknownMessage (name : String) : String :=
  s!"unknown download failure policy '{name.toLower}'"

end FailurePolicy

structure Settings where
  defaultThreads : Nat := 1
  maxThreads : Nat := 32
  policy : FailurePolicy := .abort
  userAgent : String := "pickaxe/0.2.0"
  timeoutMs : Nat := 30000
deriving Repr

namespace Settings

/-- Reads a number of at most 64 bits, with or without a plus sign. -/
def readNat? (text : String) : Option Nat :=
  let digits := match text.toList with
    | '+' :: rest => rest
    | cs => cs
  if digits.isEmpty || !digits.all Char.isDigit then none
  else
    let n := Number.ofDigits digits
    if n < Nat.pow 2 64 then some n else none

/-- The settings with some taken from an environment. What cannot be read there does not count,
and numbers of workers are at least one. -/
def ofEnvironment (lookup : String → Option String) : Settings :=
  let read {α : Type} (name : String) (reader : String → Option α) : Option α :=
    (lookup name).bind fun text => reader (Text.trim text)
  let base : Settings := {}
  { defaultThreads := ((read "PICKAXE_THREADS" readNat?).map (max 1)).getD base.defaultThreads
    maxThreads := ((read "PICKAXE_MAX_THREADS" readNat?).map (max 1)).getD base.maxThreads
    timeoutMs := (read "PICKAXE_TIMEOUT_MS" readNat?).getD base.timeoutMs
    policy := (read "PICKAXE_ON_DOWNLOAD_ERROR" FailurePolicy.ofName?).getD base.policy
    userAgent :=
      ((lookup "PICKAXE_USER_AGENT").filter fun text => Text.trim text != "").getD
        base.userAgent }

/-- The number of workers for a download: what its hint asks for, within the limit, and no more
than there are wires, but at least one. -/
def threadsFor (s : Settings) (hint : Option Nat) (wires : Nat) : Nat :=
  max 1 (min (min (hint.getD s.defaultThreads) s.maxThreads) wires)

end Settings

end Quarry
