import Quarry.Json.Basic
import Quarry.Number.Reading

/-!
Numbers in JSON documents. Digits are taken into a whole number as long as it has 64 bits; later
digits of the whole part count as zeros and later digits of the fraction are dropped. The float
is that number, scaled by one power of ten at a time, so that its last digit may be off.
-/

namespace Quarry.Json

def wordBound : Nat := Nat.pow 2 64

/-- Takes digits into a number while it stays below the bound. Returns the number, how many
digits it took, and what is left. -/
def takeDigits : Nat → List Char → Nat × Nat × List Char
  | n, [] => (n, 0, [])
  | n, c :: cs =>
    let grown := 10 * n + (c.toNat - '0'.toNat)
    if c.isDigit && grown < wordBound then
      let (m, count, rest) := takeDigits grown cs
      (m, count + 1, rest)
    else (n, 0, c :: cs)

/-- Divides by powers of ten up to `10 ^ 308` until the exponent is used up. Three divisions
leave zero of any number of 64 bits. -/
def scaleDown : Nat → Float → Nat → Float
  | 0, x, _ => x
  | steps + 1, x, n =>
    if n ≤ 308 then x / Float.ofScientific 1 false n
    else scaleDown steps (x / Float.ofScientific 1 false 308) (n - 308)

/-- The float `digits * 10 ^ exponent`; nothing beyond the largest float. -/
def scale? (digits : Nat) (exponent : Int) : Option Float :=
  let x := Float.ofNat digits
  if exponent < 0 then some (scaleDown 4 x (-exponent).toNat)
  else if exponent ≤ 308 then
    let y := x * Float.ofScientific 1 false exponent.toNat
    if y.isInf then none else some y
  else if digits = 0 then some x
  else none

def readPower? : List Char → Option (Option Int × List Char)
  | c :: cs =>
    if c = 'e' ∨ c = 'E' then
      let (negative, cs) := Number.splitSign cs
      let ds := cs.takeWhile Char.isDigit
      if ds.isEmpty then none
      else
        let n : Int := Number.ofDigits ds
        some (some (if negative then -n else n), cs.dropWhile Char.isDigit)
    else some (none, c :: cs)
  | [] => some (none, [])

def readUnsigned? (negative : Bool) (cs : List Char) : Option (JsonNumber × List Char) := do
  let whole := cs.takeWhile Char.isDigit
  if whole.isEmpty then none
  if whole.length ≠ 1 ∧ whole.head? = some '0' then none
  let (digits, taken, rest) := takeDigits 0 cs
  let zeros := whole.length - taken
  let rest := rest.drop zeros
  let signed (x : Float) : JsonNumber := .float (if negative then -x else x)
  match rest with
  | '.' :: fraction =>
    if (fraction.takeWhile Char.isDigit).isEmpty then none
    let (digits, places, rest) := takeDigits digits fraction
    let (power, rest) ← readPower? (rest.dropWhile Char.isDigit)
    let x ← scale? digits (zeros - places + power.getD 0)
    some (signed x, rest)
  | _ =>
    let (power, after) ← readPower? rest
    if zeros = 0 ∧ power.isNone then
      if !negative then some (.integer digits, rest)
      else if digits = 0 ∨ Nat.pow 2 63 < digits then some (signed (Float.ofNat digits), rest)
      else some (.integer (-digits), rest)
    else
      let x ← scale? digits (zeros + power.getD 0)
      some (signed x, after)

def readNumber? : List Char → Option (JsonNumber × List Char)
  | '-' :: cs => readUnsigned? true cs
  | cs => readUnsigned? false cs

end Quarry.Json
