import Quarry.Number.Shortest

/-!
How a float is written: the shortest digits that read back, laid out with a decimal point or
with a power of ten.
-/

namespace Quarry.Number

structure FloatLayout where
  /-- Which of two equally near decimals is written. -/
  tie : Tie
  /-- Whether a number whose point follows its `n`-th digit is written without an exponent. -/
  positional : Int → Bool
  /-- What follows a whole number written without an exponent. -/
  wholeEnd : String
  /-- What stands before a power of ten that is not negative. -/
  powerSign : String

namespace FloatLayout

/-- Writes positive digits with their decimal point: zeros fill the gap between the digits and
the point. -/
def positionalText (wholeEnd : String) (d : Digits) : String :=
  let ds := Nat.toDigits 10 d.digits
  let point : Int := ds.length + d.exponent
  if 0 ≤ d.exponent then
    String.ofList (ds ++ List.replicate d.exponent.toNat '0') ++ wholeEnd
  else if 0 < point then
    String.ofList (ds.take point.toNat) ++ "." ++ String.ofList (ds.drop point.toNat)
  else "0." ++ String.ofList (List.replicate (-point).toNat '0' ++ ds)

def exponentText (powerSign : String) (d : Digits) : String :=
  let ds := Nat.toDigits 10 d.digits
  let power : Int := ds.length + d.exponent - 1
  let fraction := if ds.length ≤ 1 then "" else "." ++ String.ofList (ds.drop 1)
  String.ofList (ds.take 1) ++ fraction ++ "e" ++ (if 0 ≤ power then powerSign else "") ++
    toString power

def magnitude (layout : FloatLayout) (mantissa : Nat) (exponent : Int) : String :=
  if mantissa = 0 then "0" ++ layout.wholeEnd
  else
    let d := Shortest.digits layout.tie mantissa exponent
    if layout.positional ((Nat.toDigits 10 d.digits).length + d.exponent) then
      positionalText layout.wholeEnd d
    else exponentText layout.powerSign d

def write (layout : FloatLayout) (x : Float) : String :=
  match Binary.ofFloat x with
  | .nan => "NaN"
  | .infinite negative => if negative then "-inf" else "inf"
  | .finite negative mantissa exponent =>
    (if negative then "-" else "") ++ layout.magnitude mantissa exponent

/-- Floats in cells and results: no exponent, and whole numbers without a point. -/
def plain : FloatLayout where
  tie := .up
  positional _ := true
  wholeEnd := ""
  powerSign := ""

/-- Floats in messages about script text: always a point or an exponent, which begins at
`10 ^ 16` and below `10 ^ -4`. -/
def marked : FloatLayout where
  tie := .up
  positional point := -4 < point && point ≤ 16
  wholeEnd := ".0"
  powerSign := ""

/-- Floats in JSON documents: as in messages, with one more zero after the point, signed powers
and ties to the even digit. -/
def json : FloatLayout where
  tie := .even
  positional point := -5 < point && point ≤ 16
  wholeEnd := ".0"
  powerSign := "+"

end FloatLayout

end Quarry.Number
