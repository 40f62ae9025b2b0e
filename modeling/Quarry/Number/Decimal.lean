import Quarry.Number.FloatParts

/-!
Exact decimals of 96 bits: a sign, a whole number below `2 ^ 96` and up to 28 decimal places.
Sums, products and quotients that need more are rounded to the most places that fit, a half
going to the even digit; what has no room even without places overflows.
-/

namespace Quarry.Number

/-- The decimal `± digits / 10 ^ places`. -/
structure Decimal where
  negative : Bool
  digits : Nat
  places : Nat
deriving DecidableEq, Repr

namespace Decimal

def digitsBound : Nat := Nat.pow 2 96

def maxPlaces : Nat := 28

def zero : Decimal := ⟨false, 0, 0⟩

def ofInt64 (n : Int64) : Decimal := ⟨n.toInt < 0, n.toInt.natAbs, 0⟩

/-! ## 1. From floats -/

/-- Drops the last digit and rounds, a half going up. -/
def dropDigit (digits : Nat) : Nat := divHalfUp digits 10

/-- Turns `digits * 2 ^ -n` into digits and an exponent of ten: halves even digits, multiplies
odd ones by five, and halves with loss when five times the digits have no room. -/
def unfoldHalves : Nat → Nat → Int → Nat × Int
  | 0, digits, exponent => (digits, exponent)
  | n + 1, digits, exponent =>
    if digits % 2 = 0 then unfoldHalves n (digits / 2) (exponent + 1)
    else if 5 * digits < digitsBound then unfoldHalves n (5 * digits) exponent
    else unfoldHalves n (digits / 2) (exponent + 1)

/-- Turns `digits * 2 ^ n` into digits and an exponent of ten: doubles while there is room, then
divides by five. -/
def unfoldDoubles : Nat → Nat → Int → Nat × Int
  | 0, digits, exponent => (digits, exponent)
  | n + 1, digits, exponent =>
    if digits < digitsBound / 2 then unfoldDoubles n (2 * digits) (exponent - 1)
    else unfoldDoubles n (digits / 5) exponent

/-- Multiplies by ten until the exponent is zero, if there is room. -/
def fillZeros? : Nat → Nat → Option Nat
  | 0, digits => some digits
  | n + 1, digits => if 10 * digits < digitsBound then fillZeros? n (10 * digits) else none

/-- Drops digits until at most 28 places are left. Digits that vanish leave zero. -/
def cutPlaces : Nat → Nat → Nat → Nat × Nat
  | 0, digits, places => (digits, places)
  | fuel + 1, digits, places =>
    if places ≤ maxPlaces then (digits, places)
    else if digits / 10 = 0 then (0, 0)
    else cutPlaces fuel (dropDigit digits) (places - 1)

/-- Drops digits until no more are left than a float is sure of: fewer than 52 bits. -/
def cutPrecision : Nat → Nat → Nat × Nat
  | 0, digits => (digits, 0)
  | places + 1, digits =>
    if digits < Nat.pow 2 52 then (digits, places + 1) else cutPrecision places (dropDigit digits)

def trimZeros : Nat → Nat → Nat × Nat
  | 0, digits => (digits, 0)
  | places + 1, digits =>
    if digits % 10 = 0 then trimZeros places (digits / 10) else (digits, places + 1)

/-- The decimal that a float stands for, with about fifteen digits, or nothing if the float is
not finite or too large. -/
def ofFloat? (x : Float) : Option Decimal :=
  match Binary.ofFloat x with
  | .finite negative mantissa exponent =>
    if mantissa = 0 then some ⟨negative, 0, 0⟩
    else
      let (digits, power) :=
        if exponent < 0 then unfoldHalves (-exponent).toNat mantissa exponent
        else unfoldDoubles exponent.toNat mantissa exponent
      if 0 < power then (fillZeros? power.toNat digits).map fun digits => ⟨negative, digits, 0⟩
      else
        let places := (-power).toNat
        let (digits, places) := cutPlaces places digits places
        let (digits, places) := cutPrecision places digits
        let (digits, places) := trimZeros places digits
        some ⟨negative, digits, places⟩
  | _ => none

/-! ## 2. Arithmetic -/

/-- The decimal nearest to `± num / den` with the most places, at most `places`, for which the
digits have room. -/
def fit? (negative : Bool) (num den : Nat) : Nat → Option Decimal
  | 0 =>
    let digits := divHalfEven num den
    if digits < digitsBound then some ⟨negative, digits, 0⟩ else none
  | places + 1 =>
    let digits := divHalfEven (num * Nat.pow 10 (places + 1)) den
    if digits < digitsBound then some ⟨negative, digits, places + 1⟩
    else fit? negative num den places

def scaled (d : Decimal) (places : Nat) : Int :=
  let digits : Int := (d.digits * Nat.pow 10 (places - d.places) : Nat)
  if d.negative then -digits else digits

def add? (a b : Decimal) : Option Decimal :=
  if a.digits = 0 then some b
  else if b.digits = 0 then some a
  else
    let places := max a.places b.places
    let sum := a.scaled places + b.scaled places
    fit? (sum < 0) sum.natAbs (Nat.pow 10 places) places

/-- The decimal with the other sign; zero has none. -/
def negate (d : Decimal) : Decimal := { d with negative := d.digits ≠ 0 && !d.negative }

def subtract? (a b : Decimal) : Option Decimal := a.add? b.negate

def multiply? (a b : Decimal) : Option Decimal :=
  if a.digits = 0 ∨ b.digits = 0 then some zero
  else
    let places := a.places + b.places
    fit? (a.negative != b.negative) (a.digits * b.digits) (Nat.pow 10 places) (min places maxPlaces)

/-- The quotient, without zeros at the end of its places. -/
def divide? (a b : Decimal) : Option Decimal :=
  if b.digits = 0 then none
  else if a.digits = 0 then some zero
  else
    (fit? (a.negative != b.negative) (a.digits * Nat.pow 10 b.places)
      (b.digits * Nat.pow 10 a.places) maxPlaces).map fun d =>
        let (digits, places) := trimZeros d.places d.digits
        { d with digits, places }

/-- The remainder of the truncating division, with the sign of the dividend. A dividend below
the divisor stays as it is. -/
def remainder? (a b : Decimal) : Option Decimal :=
  if b.digits = 0 then none
  else if a.digits = 0 then some zero
  else
    let places := max a.places b.places
    let n := (a.scaled places).natAbs
    let m := (b.scaled places).natAbs
    if n = m then some zero
    else if n < m then some a
    else some ⟨a.negative, n % m, places⟩

/-! ## 3. To floats -/

/-- The float of a decimal. Whole numbers are rounded once. Otherwise the whole part and the
fraction are added as floats, and the sum is rounded to the places of the decimal. -/
def toFloat (d : Decimal) : Float :=
  if d.places = 0 then
    if d.negative && d.digits != 0 then -(Float.ofNat d.digits) else Float.ofNat d.digits
  else
    let precision := Nat.pow 10 d.places
    let whole := Float.ofNat (d.digits / precision)
    let fraction := Float.ofNat (d.digits % precision) / Float.ofNat precision
    let magnitude :=
      if fraction == 0 then whole
      else
        let scale := powBySquaring 10 d.places
        roundWhole ((whole + fraction) * scale) / scale
    if d.negative then -magnitude else magnitude

end Decimal

end Quarry.Number
