/-!
Rounding quotients of natural numbers to whole numbers.
-/

namespace Quarry.Number

def divHalfEven (num den : Nat) : Nat :=
  let floor := num / den
  let twice := 2 * (num % den)
  if twice < den ∨ twice = den ∧ floor % 2 = 0 then floor else floor + 1

def divHalfUp (num den : Nat) : Nat :=
  let floor := num / den
  if 2 * (num % den) < den then floor else floor + 1

end Quarry.Number
