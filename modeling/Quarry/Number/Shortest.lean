import Quarry.Number.Binary

/-!
The fewest decimal digits that read back as a given float. The reals that round to
`m * 2 ^ q` form an interval, closed exactly when `m` is even. Among the decimal grids
`10 ^ j`, from coarse to fine, the first one with a point in the interval is taken, and of two
such points the nearer.
-/

namespace Quarry.Number

inductive Tie where
  | up
  | even
deriving DecidableEq, Repr

/-- A decimal `digits * 10 ^ exponent`. -/
structure Digits where
  digits : Nat
  exponent : Int
deriving DecidableEq, Repr

namespace Digits

def stripZeros : Nat → Digits → Digits
  | 0, d => d
  | fuel + 1, d =>
    if d.digits ≠ 0 ∧ d.digits % 10 = 0 then
      stripZeros fuel ⟨d.digits / 10, d.exponent + 1⟩
    else d

end Digits

namespace Shortest

/-- The interval of reals that round to a float, in units of a quarter of its last place:
the bounds are `low / den` and `high / den`, the float itself is `value / den`. -/
structure Interval where
  low : Nat
  value : Nat
  high : Nat
  den : Nat
  closed : Bool
deriving DecidableEq, Repr

/-- The interval of `mantissa * 2 ^ exponent`. Below a power of two the floats lie twice as
dense, so there the lower bound is nearer. -/
def interval (mantissa : Nat) (exponent : Int) : Interval :=
  let scale := Nat.pow 2 exponent.toNat
  let below :=
    if mantissa = Nat.pow 2 Binary.fractionBits ∧ Binary.leastExponent < exponent then 1 else 2
  { low := (4 * mantissa - below) * scale
    value := 4 * mantissa * scale
    high := (4 * mantissa + 2) * scale
    den := 4 * Nat.pow 2 (-exponent).toNat
    closed := mantissa % 2 == 0 }

/-- The position of the leading decimal digit of `num / den`: the `k` with
`10 ^ k ≤ num / den < 10 ^ (k + 1)`. -/
def leading (num den : Nat) : Int :=
  let guess : Int := ((Nat.log2 num : Int) - Nat.log2 den) * 30103 / 100000
  let reaches (k : Int) : Bool := den * Nat.pow 10 k.toNat ≤ num * Nat.pow 10 (-k).toNat
  if reaches (guess + 1) then guess + 1
  else if reaches guess then guess
  else guess - 1

/-- The point of the grid `10 ^ j` that stands for the float, if one lies in its interval. -/
def onGrid? (tie : Tie) (i : Interval) (j : Int) : Option Nat :=
  let up := Nat.pow 10 (-j).toNat
  let unit := i.den * Nat.pow 10 j.toNat
  let value := i.value * up
  let floor := value / unit
  let rest := value % unit
  let inside (d : Nat) : Bool :=
    if i.closed then i.low * up ≤ d * unit && d * unit ≤ i.high * up
    else i.low * up < d * unit && d * unit < i.high * up
  match inside floor && floor != 0, inside (floor + 1) with
  | false, false => none
  | true, false => some floor
  | false, true => some (floor + 1)
  | true, true =>
    if 2 * rest < unit then some floor
    else if unit < 2 * rest then some (floor + 1)
    else match tie with
      | .up => some (floor + 1)
      | .even => some (if floor % 2 = 0 then floor else floor + 1)

def firstGrid (tie : Tie) (i : Interval) : Nat → Int → Digits
  | 0, j => ⟨i.value * Nat.pow 10 (-j).toNat / (i.den * Nat.pow 10 j.toNat), j⟩
  | tries + 1, j =>
    match onGrid? tie i j with
    | some d => ⟨d, j⟩
    | none => firstGrid tie i tries (j - 1)

/-- The fewest digits that read back as `mantissa * 2 ^ exponent`. Seventeen always do. -/
def digits (tie : Tie) (mantissa : Nat) (exponent : Int) : Digits :=
  if mantissa = 0 then ⟨0, 0⟩
  else
    let i := interval mantissa exponent
    (firstGrid tie i 17 (leading i.value i.den)).stripZeros 17

end Shortest

end Quarry.Number
