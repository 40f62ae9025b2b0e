import Mathlib.Algebra.Order.Field.Basic
import Mathlib.Algebra.Order.Field.Power
import Mathlib.Data.Rat.Cast.Order
import Mathlib.Tactic.FieldSimp
import Mathlib.Tactic.Linarith
import Mathlib.Tactic.NormNum
import Mathlib.Tactic.Ring
import Quarry.Proofs.Number.Integers

/-!
# Rounding to the nearest float

The numbers that are rounded to a float make up an interval around it. Whatever way a number in it is handed
over, as a mantissa with a remainder or as a product or a quotient of floats, rounding gives that float.
-/

namespace Quarry.Number

open Float.Model (Format UnpackedFloat totalExponent)
open Float.Model.UnpackedFloat (Sign Accuracy ExtendedMantissa roundWithAccuracy shiftToExponent
  shiftToTargetExponent accuracyOfFraction divCore)

/-! ## 1. Definitions -/

/-- A mantissa stands for a number: the first bit behind it and whether more follow say how far it is off. -/
inductive StandsFor : ExtendedMantissa → ℚ → Prop where
  | exact (m : Nat) : StandsFor ⟨m, false, false⟩ m
  | below {m : Nat} {x : ℚ} (hlow : m < x) (hhigh : x < m + 1 / 2) : StandsFor ⟨m, false, true⟩ x
  | half (m : Nat) : StandsFor ⟨m, true, false⟩ (m + 1 / 2)
  | above {m : Nat} {x : ℚ} (hlow : m + 1 / 2 < x) (hhigh : x < m + 1) : StandsFor ⟨m, true, true⟩ x

/-- The whole number is the nearest, and the even one of two. -/
structure IsNearest (m : Nat) (x : ℚ) : Prop where
  low : m - 1 / 2 ≤ x
  high : x ≤ m + 1 / 2
  odd : m % 2 = 1 → m - 1 / 2 < x ∧ x < m + 1 / 2

/-- `m * 2 ^ e` is a float above zero, with all its bits in the mantissa. -/
structure IsFloat (m : Nat) (e : Int) : Prop where
  pos : 0 < m
  room : m < 2 ^ 53
  least : -1074 ≤ e
  largest : e ≤ 971
  full : 2 ^ 52 ≤ m ∨ e = -1074

/-- How many quarters of the last place lie between a float and the numbers that are rounded to the next one
below. Under a power of two the floats are twice as dense. -/
def quartersBelow (m : Nat) (e : Int) : Nat := if m = 2 ^ 52 ∧ -1074 < e then 1 else 2

/-- The number lies in the interval around `m * 2 ^ e`, whose ends belong to it exactly if `m` is even. -/
structure Surrounds (m : Nat) (e : Int) (q : ℚ) : Prop where
  low : (m - quartersBelow m e / 4 : ℚ) * 2 ^ e ≤ q
  high : q ≤ (m + 1 / 2 : ℚ) * 2 ^ e
  odd : m % 2 = 1 → (m - quartersBelow m e / 4 : ℚ) * 2 ^ e < q ∧ q < (m + 1 / 2 : ℚ) * 2 ^ e

/-! ## 2. Mantissas -/

namespace StandsFor

variable {em : ExtendedMantissa} {x : ℚ}

theorem bounds (h : StandsFor em x) : em.mantissa ≤ x ∧ x < em.mantissa + 1 := by
  cases h with
  | exact m => exact ⟨le_refl _, by linarith⟩
  | below hlow hhigh => exact ⟨hlow.le, by linarith⟩
  | half m => exact ⟨by linarith, by linarith⟩
  | above hlow hhigh => exact ⟨by linarith, hhigh⟩

theorem shiftRightOne_even (k : Nat) (r t : Bool) :
    (ExtendedMantissa.mk (2 * k) r t).shiftRightOne = ⟨k, false, r || t⟩ := by
  simp [ExtendedMantissa.shiftRightOne]

theorem shiftRightOne_odd (k : Nat) (r t : Bool) :
    (ExtendedMantissa.mk (2 * k + 1) r t).shiftRightOne = ⟨k, true, r || t⟩ := by
  simp [ExtendedMantissa.shiftRightOne]
  omega

-- The last bit of the mantissa becomes the first one behind it.
theorem shiftRightOne (h : StandsFor em x) : StandsFor em.shiftRightOne (x / 2) := by
  have heven (k : Nat) : ((2 * k : Nat) : ℚ) = 2 * k := by push_cast; rfl
  have hodd (k : Nat) : ((2 * k + 1 : Nat) : ℚ) = 2 * k + 1 := by push_cast; rfl
  cases h with
  | exact m =>
    rcases Nat.even_or_odd' m with ⟨k, rfl | rfl⟩
    · rw [shiftRightOne_even, heven, mul_div_cancel_left₀ _ two_ne_zero]
      exact .exact k
    · rw [shiftRightOne_odd, hodd, show (2 * k + 1 : ℚ) / 2 = k + 1 / 2 by ring]
      exact .half k
  | @below m x hlow hhigh =>
    rcases Nat.even_or_odd' m with ⟨k, rfl | rfl⟩
    · rw [heven] at hlow hhigh
      rw [shiftRightOne_even]
      exact .below (by linarith) (by linarith)
    · rw [hodd] at hlow hhigh
      rw [shiftRightOne_odd]
      exact .above (by linarith) (by linarith)
  | half m =>
    rcases Nat.even_or_odd' m with ⟨k, rfl | rfl⟩
    · rw [shiftRightOne_even, heven]
      exact .below (by linarith) (by linarith)
    · rw [shiftRightOne_odd, hodd]
      exact .above (by linarith) (by linarith)
  | @above m x hlow hhigh =>
    rcases Nat.even_or_odd' m with ⟨k, rfl | rfl⟩
    · rw [heven] at hlow hhigh
      rw [shiftRightOne_even]
      exact .below (by linarith) (by linarith)
    · rw [hodd] at hlow hhigh
      rw [shiftRightOne_odd]
      exact .above (by linarith) (by linarith)

theorem shiftRight (h : StandsFor em x) (k : Nat) : StandsFor (em >>> k) (x / 2 ^ k) := by
  show StandsFor (k.repeat ExtendedMantissa.shiftRightOne em) _
  induction k with
  | zero => rw [pow_zero, div_one]; exact h
  | succ k ih =>
    rw [pow_succ, ← div_div]
    exact ih.shiftRightOne

/-- A mantissa is rounded to the whole number nearest to what it stands for. -/
theorem roundedMantissa_eq {m : Nat} (h : StandsFor em x) (hx : IsNearest m x) :
    em.roundedMantissa = m := by
  have ⟨hlow, hhigh, hodd⟩ := hx
  -- Between two whole numbers a number is nearest to one of them, or to the even one.
  cases h with
  | exact k =>
    show k = m
    have h1 : (m : ℚ) < k + 1 := by linarith
    have h2 : (k : ℚ) < m + 1 := by linarith
    norm_cast at h1 h2
    omega
  | @below k x hk hk' =>
    show k = m
    have h1 : (m : ℚ) < k + 1 := by linarith
    have h2 : (k : ℚ) < m + 1 := by linarith
    norm_cast at h1 h2
    omega
  | half k =>
    show k + k % 2 = m
    have h1 : (m : ℚ) ≤ k + 1 := by linarith
    have h2 : (k : ℚ) ≤ m := by linarith
    norm_cast at h1 h2
    have hm : m % 2 = 0 := by
      by_contra hm
      have ⟨h3, h4⟩ := hodd (by omega)
      have h5 : (m : ℚ) < k + 1 := by linarith
      have h6 : (k : ℚ) < m := by linarith
      norm_cast at h5 h6
      omega
    omega
  | @above k x hk hk' =>
    show k + 1 = m
    have h1 : (m : ℚ) < k + 2 := by linarith
    have h2 : (k : ℚ) < m := by linarith
    norm_cast at h1 h2
    omega

theorem ofMantissa (m : Nat) : StandsFor (.ofMantissaAndAccuracy m .exact) m := .exact m

-- A quotient is handed over with what its remainder says about the rest.
theorem ofFraction (n : Nat) {d : Nat} (hd : 0 < d) :
    StandsFor (.ofMantissaAndAccuracy (n / d) (accuracyOfFraction (n % d) d)) (n / d : ℚ) := by
  have hd' : (0 : ℚ) < d := by exact_mod_cast hd
  have hsum : (n : ℚ) = d * (n / d : Nat) + (n % d : Nat) := by
    exact_mod_cast (Nat.div_add_mod n d).symm
  have hn : (n : ℚ) / d = (n / d : Nat) + (n % d : Nat) / d := by
    nth_rewrite 1 [hsum]
    rw [add_div, mul_div_cancel_left₀ _ hd'.ne']
  have hlt := Nat.mod_lt n hd
  rw [hn]
  generalize n / d = m
  generalize n % d = r at *
  unfold accuracyOfFraction
  by_cases hr : r = 0
  · rw [if_pos hr, hr, Nat.cast_zero, zero_div, add_zero]
    exact .exact m
  · have hpos : (0 : ℚ) < r / d := div_pos (by exact_mod_cast Nat.pos_of_ne_zero hr) hd'
    have hone : (r : ℚ) / d < 1 := (div_lt_one hd').mpr (by exact_mod_cast hlt)
    rw [if_neg hr]
    cases hcompare : compare (2 * r) d with
    | lt =>
      have htwice : (r : ℚ) / d < 1 / 2 := by
        rw [div_lt_div_iff₀ hd' two_pos, one_mul, mul_comm]
        exact_mod_cast Nat.compare_eq_lt.mp hcompare
      exact .below (by linarith) (by linarith)
    | eq =>
      have htwice : (r : ℚ) / d = 1 / 2 := by
        rw [div_eq_div_iff hd'.ne' two_ne_zero, one_mul, mul_comm]
        exact_mod_cast Nat.compare_eq_eq.mp hcompare
      rw [htwice]
      exact .half m
    | gt =>
      have htwice : 1 / 2 < (r : ℚ) / d := by
        rw [div_lt_div_iff₀ two_pos hd', one_mul, mul_comm]
        exact_mod_cast Nat.compare_eq_gt.mp hcompare
      exact .above (by linarith) (by linarith)

end StandsFor

/-! ## 3. Exponents -/

theorem target_eq (m : Nat) (e : Int) :
    Format.binary64.targetExponent (totalExponent m e) = max (m.log2 + e - 52) (-1074) := by
  simp only [Format.targetExponent, totalExponent, Format.mantissaBits, Format.minExponent]
  omega

theorem two_zpow_pos (e : Int) : (0 : ℚ) < 2 ^ e := zpow_pos two_pos e

section Exponents

variable {m : Nat} {e : Int} {q : ℚ} (hlow : m ≤ q / 2 ^ e) (hhigh : q / 2 ^ e < m + 1)

include hlow hhigh

-- The leading bit of a mantissa is that of the number.
theorem log2_bounds (hm : m ≠ 0) : (2 : ℚ) ^ (m.log2 + e) ≤ q ∧ q < (2 : ℚ) ^ (m.log2 + e + 1) := by
  have hfirst : ((2 ^ m.log2 : Nat) : ℚ) ≤ m := by exact_mod_cast Nat.log2_self_le hm
  have hlast : ((m + 1 : Nat) : ℚ) ≤ (2 ^ (m.log2 + 1) : Nat) := by exact_mod_cast Nat.lt_log2_self
  push_cast at hfirst hlast
  have hsum : (m.log2 : Int) + e + 1 = ((m.log2 + 1 : Nat) : Int) + e := by omega
  rw [hsum, zpow_add₀ two_ne_zero, zpow_add₀ two_ne_zero, zpow_natCast, zpow_natCast]
  constructor
  · exact (le_div_iff₀ (two_zpow_pos e)).mp (hfirst.trans hlow)
  · exact (div_lt_iff₀ (two_zpow_pos e)).mp (hhigh.trans_le hlast)

variable (he : e ≤ Format.binary64.targetExponent (totalExponent m e))

include he

-- Without a bit in front of the point, the number is too small for any but the least exponent.
theorem lt_of_mantissa_zero (hm : m = 0) : e ≤ -1074 ∧ q < (2 : ℚ) ^ (-1074 : Int) := by
  subst hm
  rw [target_eq, Nat.log2_zero] at he
  have hexponent : e ≤ -1074 := by omega
  rw [Nat.cast_zero, zero_add, div_lt_one (two_zpow_pos e)] at hhigh
  exact ⟨hexponent, hhigh.trans_le (zpow_le_zpow_right₀ one_le_two hexponent)⟩

theorem target_of_lt (hq : q < (2 : ℚ) ^ (-1021 : Int)) :
    Format.binary64.targetExponent (totalExponent m e) = -1074 := by
  rw [target_eq]
  by_cases hm : m = 0
  · have hexponent := (lt_of_mantissa_zero hlow hhigh he hm).1
    rw [hm, Nat.log2_zero]
    omega
  · have hlog := ((log2_bounds hlow hhigh hm).1).trans_lt hq
    rw [zpow_lt_zpow_iff_right₀ one_lt_two] at hlog
    omega

theorem target_of_bounds {a : Int} (ha : -1022 ≤ a) (hq : (2 : ℚ) ^ a ≤ q)
    (hq' : q < (2 : ℚ) ^ (a + 1)) :
    Format.binary64.targetExponent (totalExponent m e) = a - 52 := by
  rw [target_eq]
  by_cases hm : m = 0
  · have htiny := hq.trans_lt (lt_of_mantissa_zero hlow hhigh he hm).2
    rw [zpow_lt_zpow_iff_right₀ one_lt_two] at htiny
    omega
  · have ⟨hfirst, hlast⟩ := log2_bounds hlow hhigh hm
    have h1 := hfirst.trans_lt hq'
    have h2 := hq.trans_lt hlast
    rw [zpow_lt_zpow_iff_right₀ one_lt_two] at h1 h2
    omega

end Exponents

-- Shifting a mantissa to the target exponent keeps what it stands for.
theorem shift_standsFor {m : Nat} {e t : Int} {a : Accuracy} {q : ℚ}
    (h : StandsFor (.ofMantissaAndAccuracy m a) (q / 2 ^ e)) (he : e ≤ t)
    (ht : Format.binary64.targetExponent (totalExponent m e) = t) :
    ∃ em, shiftToTargetExponent .binary64 m e a = (em, t) ∧ StandsFor em (q / 2 ^ t) := by
  have hexponent : e + ((t - e).toNat : Int) = t := by omega
  have hvalue : q / (2 : ℚ) ^ t = q / 2 ^ e / 2 ^ (t - e).toNat := by
    rw [div_div, ← zpow_natCast, ← zpow_add₀ two_ne_zero, hexponent]
  have hshift := h.shiftRight (t - e).toNat
  rw [← hvalue] at hshift
  rw [shiftToTargetExponent, ht, shiftToExponent]
  simp only [hexponent]
  exact ⟨_, rfl, hshift⟩

-- A mantissa that is full, or has the least exponent, is not shifted.
theorem shift_isFloat {m : Nat} {e : Int} (h : IsFloat m e) :
    ∃ em, shiftToTargetExponent .binary64 m e .exact = (em, e) ∧ em.mantissa = m := by
  have hlog : m.log2 < 53 := (Nat.log2_lt (Nat.ne_of_gt h.pos)).mpr h.room
  have htarget : Format.binary64.targetExponent (totalExponent m e) = e := by
    rw [target_eq]
    rcases h.full with hfull | hleast
    · have hfirst : 52 ≤ m.log2 := (Nat.le_log2 (Nat.ne_of_gt h.pos)).mpr hfull
      have := h.least
      omega
    · omega
  rw [shiftToTargetExponent, htarget, shiftToExponent]
  simp only [Int.sub_self, Int.toNat_zero, Nat.cast_zero, Int.add_zero]
  exact ⟨_, rfl, rfl⟩

-- One bit more than a mantissa has room for is dropped.
theorem shift_two_pow {e : Int} (he : -1074 ≤ e) : ∃ em,
    shiftToTargetExponent .binary64 (2 ^ 53) e .exact = (em, e + 1) ∧ em.mantissa = 2 ^ 52 := by
  have hlog : Nat.log2 (2 ^ 53) = 53 := Nat.log2_two_pow
  have ⟨em, hshift, hmantissa⟩ := shiftToTargetExponent_eq (m := 2 ^ 53) (by rw [hlog]; decide) he
  refine ⟨em, ?_, ?_⟩
  · rw [hshift, hlog]
    exact Prod.ext rfl (by omega)
  · rw [hmantissa, hlog]
    rfl

/-! ## 4. Rounding -/

namespace Surrounds

variable {m : Nat} {e : Int} {q : ℚ}

-- In units of the last place.
theorem scaled (h : Surrounds m e q) : m - quartersBelow m e / 4 ≤ q / 2 ^ e ∧ q / 2 ^ e ≤ m + 1 / 2 ∧
    (m % 2 = 1 → m - quartersBelow m e / 4 < q / 2 ^ e ∧ q / 2 ^ e < m + 1 / 2) := by
  have he := two_zpow_pos e
  refine ⟨(le_div_iff₀ he).mpr h.low, (div_le_iff₀ he).mpr h.high, fun hm => ?_⟩
  exact ⟨(lt_div_iff₀ he).mpr (h.odd hm).1, (div_lt_iff₀ he).mpr (h.odd hm).2⟩

-- From half a last place below the float on, the number is rounded in units of the last place.
theorem isNearest (h : Surrounds m e q) (hlow : quartersBelow m e = 2 ∨ m ≤ q / 2 ^ e) :
    IsNearest m (q / 2 ^ e) := by
  have ⟨hfirst, hlast, hodd⟩ := h.scaled
  rcases hlow with htwo | hlow
  · rw [htwo, show (m : ℚ) - (2 : Nat) / 4 = m - 1 / 2 by norm_num] at hfirst hodd
    exact ⟨hfirst, hlast, hodd⟩
  · exact ⟨by linarith, hlast, fun hm => ⟨by linarith, (hodd hm).2⟩⟩

theorem lt_next (h : Surrounds m e q) (hf : IsFloat m e) : q < (2 : ℚ) ^ (e + 53) := by
  have hm : ((m + 1 : Nat) : ℚ) ≤ (2 ^ 53 : Nat) := by exact_mod_cast hf.room
  push_cast at hm
  rw [zpow_add₀ two_ne_zero, mul_comm]
  apply h.high.trans_lt
  apply mul_lt_mul_of_pos_right _ (two_zpow_pos e)
  norm_num at hm ⊢
  linarith

-- Above the least exponent a number reaches the leading bit of its float, or lies right below a power of two.
theorem leading_bit (h : Surrounds m e q) (hf : IsFloat m e) (he : -1074 < e) :
    (2 : ℚ) ^ (e + 52) ≤ q ∧ (quartersBelow m e = 2 ∨ m ≤ q / 2 ^ e) ∨
      m = 2 ^ 52 ∧ q < (2 : ℚ) ^ (e + 52) := by
  have hfull : 2 ^ 52 ≤ m := hf.full.resolve_right (by omega)
  have hpower : (2 : ℚ) ^ (e + 52) = 2 ^ 52 * 2 ^ e := by
    rw [zpow_add₀ two_ne_zero, mul_comm]
    rfl
  rw [hpower, ← le_div_iff₀ (two_zpow_pos e), ← div_lt_iff₀ (two_zpow_pos e)]
  by_cases hm : m = 2 ^ 52
  · have hcast : (m : ℚ) = 2 ^ 52 := by exact_mod_cast hm
    rcases le_or_gt (m : ℚ) (q / 2 ^ e) with hle | hlt
    · exact .inl ⟨hcast ▸ hle, .inr hle⟩
    · exact .inr ⟨hm, hcast ▸ hlt⟩
  · have htwo : quartersBelow m e = 2 := if_neg fun h => hm h.1
    have hnext : (2 ^ 52 + 1 : ℚ) ≤ m := by exact_mod_cast Nat.lt_of_le_of_ne hfull (Ne.symm hm)
    have hfirst := h.scaled.1
    rw [htwo] at hfirst
    norm_num at hfirst ⊢
    exact .inl ⟨by linarith, .inl htwo⟩

-- There the last place is half as much, and the nearest mantissa has one bit too many.
theorem isNearest_under_power (h : Surrounds (2 ^ 52) e q) (he : -1074 < e)
    (hq : q < (2 : ℚ) ^ (e + 52)) :
    (2 : ℚ) ^ (e + 51) ≤ q ∧ IsNearest (2 ^ 53) (q / (2 : ℚ) ^ (e - 1)) := by
  have hfirst := h.scaled.1
  rw [show quartersBelow (2 ^ 52) e = 1 from if_pos ⟨rfl, he⟩] at hfirst
  rw [zpow_add₀ two_ne_zero, mul_comm, ← div_lt_iff₀ (two_zpow_pos e)] at hq
  have hdouble : q / (2 : ℚ) ^ (e - 1) = 2 * (q / 2 ^ e) := by
    rw [zpow_sub_one₀ two_ne_zero]
    field_simp
  push_cast at hfirst
  norm_num at hfirst hq
  constructor
  · rw [zpow_add₀ two_ne_zero, mul_comm, ← le_div_iff₀ (two_zpow_pos e)]
    norm_num
    linarith
  · rw [hdouble]
    refine ⟨?_, ?_, fun h => absurd h (by decide)⟩
    · push_cast
      norm_num
      linarith
    · push_cast
      norm_num
      linarith

end Surrounds

-- A number is rounded in units of its last place, and what has a bit too many is shifted once more.
theorem roundWithAccuracy_of_isNearest {s : Sign} {n m' m : Nat} {d t e : Int} {a : Accuracy} {q : ℚ}
    (h : StandsFor (.ofMantissaAndAccuracy n a) (q / 2 ^ d))
    (ht : Format.binary64.targetExponent (totalExponent n d) = t) (hd : d ≤ t)
    (hnearest : IsNearest m' (q / 2 ^ t)) (hm : 0 < m)
    (hshift : ∃ em, shiftToTargetExponent .binary64 m' t .exact = (em, e) ∧ em.mantissa = m) :
    roundWithAccuracy .binary64 s n d a = .finite s m e hm := by
  rcases shift_standsFor h hd ht with ⟨em, hfirst, hem⟩
  rcases hshift with ⟨em', hsecond, rfl⟩
  rw [roundWithAccuracy, hfirst]
  simp only [hem.roundedMantissa_eq hnearest, hsecond]
  exact dif_neg (Nat.ne_of_gt hm)

/-- A number around a float is rounded to it. -/
theorem roundWithAccuracy_of_surrounds {s : Sign} {n m : Nat} {d e : Int} {a : Accuracy} {q : ℚ}
    (hf : IsFloat m e) (hq : Surrounds m e q)
    (h : StandsFor (.ofMantissaAndAccuracy n a) (q / 2 ^ d))
    (hd : d ≤ Format.binary64.targetExponent (totalExponent n d)) :
    roundWithAccuracy .binary64 s n d a = .finite s m e hf.pos := by
  have hmantissa : (ExtendedMantissa.ofMantissaAndAccuracy n a).mantissa = n := by
    unfold ExtendedMantissa.ofMantissaAndAccuracy
    split <;> rfl
  have hbounds := h.bounds
  rw [hmantissa] at hbounds
  have hleast := hf.least
  rcases hleast.eq_or_lt with rfl | he
  · -- Subnormal floats and the first normal ones share the least exponent.
    have htarget := target_of_lt hbounds.1 hbounds.2 hd (hq.lt_next hf)
    have htwo : quartersBelow m (-1074) = 2 := if_neg fun h => absurd h.2 (by decide)
    exact roundWithAccuracy_of_isNearest h htarget (htarget ▸ hd) (hq.isNearest (.inl htwo)) hf.pos
      (shift_isFloat hf)
  · rcases hq.leading_bit hf he with ⟨hreach, hlow⟩ | ⟨rfl, hunder⟩
    · have hnext := hq.lt_next hf
      rw [show e + 53 = e + 52 + 1 by omega] at hnext
      have htarget := target_of_bounds hbounds.1 hbounds.2 hd (by omega) hreach hnext
      rw [Int.add_sub_cancel] at htarget
      exact roundWithAccuracy_of_isNearest h htarget (htarget ▸ hd) (hq.isNearest hlow) hf.pos
        (shift_isFloat hf)
    · have hnearest := hq.isNearest_under_power he hunder
      rw [show e + 52 = e + 51 + 1 by omega] at hunder
      have htarget := target_of_bounds hbounds.1 hbounds.2 hd (by omega) hnearest.1 hunder
      rw [show e + 51 - 52 = e - 1 by omega] at htarget
      have hshift := shift_two_pow (show -1074 ≤ e - 1 by omega)
      rw [Int.sub_add_cancel] at hshift
      exact roundWithAccuracy_of_isNearest h htarget (htarget ▸ hd) hnearest.2 hf.pos hshift

section Operations

variable {m m₁ m₂ : Nat} {e e₁ e₂ : Int} {h₁ : 0 < m₁} {h₂ : 0 < m₂} (hf : IsFloat m e)

include hf

/-- A product of floats is rounded to the float that it lies around. -/
theorem mul_of_surrounds (hbits : 2 ^ 52 ≤ m₁ * m₂)
    (hq : Surrounds m e (m₁ * 2 ^ e₁ * (m₂ * 2 ^ e₂))) :
    UnpackedFloat.mul .binary64 (.finite .positive m₁ e₁ h₁) (.finite .positive m₂ e₂ h₂) =
      .finite .positive m e hf.pos := by
  have hvalue : (m₁ * 2 ^ e₁ * (m₂ * 2 ^ e₂) : ℚ) / 2 ^ (e₁ + e₂) = (m₁ * m₂ : Nat) := by
    rw [zpow_add₀ two_ne_zero, Nat.cast_mul]
    have := two_zpow_pos e₁
    have := two_zpow_pos e₂
    field_simp
  have hlog : 52 ≤ (m₁ * m₂).log2 :=
    (Nat.le_log2 (Nat.mul_ne_zero (Nat.ne_of_gt h₁) (Nat.ne_of_gt h₂))).mpr hbits
  apply roundWithAccuracy_of_surrounds hf hq
  · rw [hvalue]
    exact .ofMantissa _
  · rw [target_eq]
    omega

/-- A quotient of floats is rounded to the float that it lies around. -/
theorem div_of_surrounds (hq : Surrounds m e (m₁ * 2 ^ e₁ / (m₂ * 2 ^ e₂))) :
    UnpackedFloat.div .binary64 (.finite .positive m₁ e₁ h₁) (.finite .positive m₂ e₂ h₂) =
      .finite .positive m e hf.pos := by
  generalize hd : min (e₁ - e₂) (Format.binary64.targetExponent
    (totalExponent m₁ e₁ - totalExponent m₂ e₂)) = d
  generalize hk : (e₁ - e₂ - d).toNat = k
  have hexponent : (k : Int) = e₁ - e₂ - d := by omega
  have hcore : divCore .binary64 m₁ e₁ m₂ e₂ =
      (m₁ * 2 ^ k / m₂, d, accuracyOfFraction (m₁ * 2 ^ k % m₂) m₂) := by
    rw [divCore]
    simp only [hd, hk, Nat.shiftLeft_eq]
  have hvalue : (m₁ * 2 ^ e₁ / (m₂ * 2 ^ e₂) : ℚ) / 2 ^ d = (m₁ * 2 ^ k : Nat) / m₂ := by
    have hpower : (2 : ℚ) ^ k = 2 ^ e₁ / 2 ^ e₂ / 2 ^ d := by
      rw [← zpow_natCast, hexponent, zpow_sub₀ two_ne_zero, zpow_sub₀ two_ne_zero]
    push_cast
    rw [hpower]
    field_simp
  have hstands := StandsFor.ofFraction (m₁ * 2 ^ k) h₂
  rw [← hvalue] at hstands
  rw [UnpackedFloat.div, hcore]
  apply roundWithAccuracy_of_surrounds hf hq hstands
  rw [target_eq]
  by_cases hleast : d ≤ -1074
  · omega
  · -- Enough bits are taken from the dividend for a full mantissa.
    have hroom : (53 + m₂.log2 : Int) ≤ m₁.log2 + k := by
      simp only [Format.targetExponent, totalExponent, Format.mantissaBits, Format.minExponent] at hd
      omega
    have hfull : 2 ^ 52 ≤ m₁ * 2 ^ k / m₂ := by
      rw [Nat.le_div_iff_mul_le h₂]
      calc 2 ^ 52 * m₂ ≤ 2 ^ 52 * 2 ^ (m₂.log2 + 1) := Nat.mul_le_mul_left _ Nat.lt_log2_self.le
        _ = 2 ^ (53 + m₂.log2) := by rw [← Nat.pow_add]; congr 1; omega
        _ ≤ 2 ^ (m₁.log2 + k) := Nat.pow_le_pow_right two_pos (by omega)
        _ = 2 ^ m₁.log2 * 2 ^ k := Nat.pow_add _ _ _
        _ ≤ m₁ * 2 ^ k := Nat.mul_le_mul_right _ (Nat.log2_self_le (Nat.ne_of_gt h₁))
    have hlog := (Nat.le_log2 (by omega)).mpr hfull
    omega

end Operations

end Quarry.Number
