import Quarry.Number.Binary
import Quarry.Number.Rounding

/-!
Operations on floats that the hardware arithmetic does not offer: building a float from a 64-bit
integer or from a mantissa and a power of two, the remainder of a division, rounding to a whole
number, and powers by repeated squaring.
-/

namespace Quarry.Number

/-- The float nearest to a 64-bit integer, a tie going to the even neighbour. -/
def ofInt64 (n : Int64) : Float := .ofModel (.ofInt64 n)

/-- The power of two, for exponents from that of the least positive float upward. -/
def twoPow (exponent : Int) : Float :=
  if exponent < -1022 then Float.ofBits (Nat.pow 2 (exponent + 1074).toNat).toUInt64
  else Float.ofBits (((exponent + 1023).toNat * Nat.pow 2 Binary.fractionBits).toUInt64)

/-- The float `mantissa * 2 ^ exponent`, exact whenever a float denotes that number. -/
def ofParts (negative : Bool) (mantissa : Nat) (exponent : Int) : Float :=
  let x := Float.ofNat mantissa * twoPow exponent
  if negative then -x else x

/-- The remainder of the truncating division. It has the sign of the dividend and is exact. -/
def remainder (x y : Float) : Float :=
  match Binary.ofFloat x, Binary.ofFloat y with
  | .nan, _ | _, .nan | .infinite _, _ => Float.ofBits 0x7ff8000000000000
  | .finite .., .infinite _ => x
  | .finite negative m p, .finite _ n q =>
    if n = 0 then Float.ofBits 0x7ff8000000000000
    else
      let e := min p q
      ofParts negative ((m * Nat.pow 2 (p - e).toNat) % (n * Nat.pow 2 (q - e).toNat)) e

/-- The nearest whole number of a float that is not negative, a half going up. -/
def roundWhole (x : Float) : Float :=
  match Binary.ofFloat x with
  | .finite negative m p =>
    if 0 ≤ p then x else ofParts negative (divHalfUp m (Nat.pow 2 (-p).toNat)) 0
  | _ => x

/-- The power `x ^ n` by repeated squaring, rounded at each product: the low bits of the exponent
are multiplied in first. -/
def powBySquaring (x : Float) (n : Nat) : Float :=
  go n.log2 x n 1
where
  /-- Multiplies the squares for the bits of `n` into `acc`. -/
  go : Nat → Float → Nat → Float → Float
    | 0, square, n, acc => if n % 2 = 1 then acc * square else acc
    | steps + 1, square, n, acc =>
      go steps (square * square) (n / 2) (if n % 2 = 1 then acc * square else acc)

end Quarry.Number
