import Mathlib.Tactic.FieldSimp
import Mathlib.Tactic.Positivity
import Mathlib.Tactic.GCongr
import Quarry.Number.Shortest
import Quarry.Proofs.Number.Decimals

/-!
# Shortest digits

The digits that are written for a float make up a decimal that lies around it. On most grids a point in the
interval of the float is looked for; on the last one the point below the float is near enough.
-/

namespace Quarry.Number

/-- The decimal that digits and their exponent stand for. -/
def Digits.value (d : Digits) : ℚ := d.digits * 10 ^ d.exponent

theorem ten_zpow_pos (j : Int) : (0 : ℚ) < 10 ^ j := zpow_pos (by norm_num) j

namespace Shortest

/-! ## 1. Grids -/

/-- Whether a point of the grid `10 ^ j` lies in the interval. -/
def isInside (i : Interval) (j : Int) (d : Nat) : Bool :=
  if i.closed then
    i.low * Nat.pow 10 (-j).toNat ≤ d * (i.den * Nat.pow 10 j.toNat) &&
      d * (i.den * Nat.pow 10 j.toNat) ≤ i.high * Nat.pow 10 (-j).toNat
  else
    i.low * Nat.pow 10 (-j).toNat < d * (i.den * Nat.pow 10 j.toNat) &&
      d * (i.den * Nat.pow 10 j.toNat) < i.high * Nat.pow 10 (-j).toNat

theorem isInside_of_onGrid? {tie : Tie} {i : Interval} {j : Int} {d : Nat}
    (h : onGrid? tie i j = some d) : isInside i j d := by
  unfold onGrid? at h
  simp only at h
  split at h
  case h_1 => cases h
  case h_2 hfloor _ =>
    cases h
    exact (Bool.and_eq_true_iff.mp hfloor).1
  case h_3 _ hnext =>
    cases h
    exact hnext
  case h_4 hfloor hnext =>
    -- Both neighbours lie in the interval, whichever is taken.
    have hfloor := (Bool.and_eq_true_iff.mp hfloor).1
    split at h
    case isTrue =>
      cases h
      exact hfloor
    case isFalse =>
      split at h
      case isTrue =>
        cases h
        exact hnext
      case isFalse =>
        cases tie with
        | up =>
          cases h
          exact hnext
        | even =>
          cases h
          split
          · exact hfloor
          · exact hnext

section Scaled

variable (e j : Int)

/-- What both sides of a comparison on a grid are multiplied by. -/
def factor : ℚ := (4 * Nat.pow 2 (-e).toNat : Nat) * (Nat.pow 10 (-j).toNat : Nat)

theorem factor_pos : 0 < factor e j := by
  unfold factor
  push_cast [Nat.pow_eq]
  positivity

theorem quarters_eq (a : Nat) : ((a * Nat.pow 2 e.toNat * Nat.pow 10 (-j).toNat : Nat) : ℚ) =
    a / 4 * 2 ^ e * factor e j := by
  unfold factor
  push_cast [Nat.pow_eq]
  rw [← zpow_mul_pow two_ne_zero e]
  ring

theorem point_eq (d : Nat) :
    ((d * (4 * Nat.pow 2 (-e).toNat * Nat.pow 10 j.toNat) : Nat) : ℚ) = d * 10 ^ j * factor e j := by
  unfold factor
  push_cast [Nat.pow_eq]
  rw [← zpow_mul_pow (show (10 : ℚ) ≠ 0 by norm_num) j]
  ring

end Scaled

variable {m : Nat} {e : Int}

theorem quartersBelow_le (hm : 0 < m) : quartersBelow m e ≤ 4 * m := by
  unfold quartersBelow
  split <;> omega

theorem low_eq (hm : 0 < m) :
    ((4 * m - quartersBelow m e : Nat) : ℚ) / 4 = m - quartersBelow m e / 4 := by
  rw [Nat.cast_sub (quartersBelow_le hm)]
  push_cast
  ring

theorem high_eq : ((4 * m + 2 : Nat) : ℚ) / 4 = m + 1 / 2 := by
  push_cast
  ring

-- In the interval of a float, ends included or not, a point lies around it.
theorem surrounds_of_isInside (hm : 0 < m) {j : Int} {d : Nat} (h : isInside (interval m e) j d) :
    Surrounds m e (d * 10 ^ j) := by
  have hpos := factor_pos e j
  have hlow := quarters_eq e j (4 * m - quartersBelow m e)
  have hhigh := quarters_eq e j (4 * m + 2)
  have hpoint := point_eq e j d
  rw [low_eq hm] at hlow
  rw [high_eq] at hhigh
  have heven : (interval m e).closed = true ↔ m % 2 = 0 := beq_iff_eq
  unfold isInside at h
  split at h
  case isTrue hclosed =>
    rw [Bool.and_eq_true, decide_eq_true_eq, decide_eq_true_eq, ← Nat.cast_le (α := ℚ),
      ← Nat.cast_le (α := ℚ)] at h
    have ⟨hfirst, hlast⟩ := h
    refine ⟨?_, ?_, fun hodd => ?_⟩
    · exact le_of_mul_le_mul_right (hlow ▸ hpoint ▸ hfirst) hpos
    · exact le_of_mul_le_mul_right (hhigh ▸ hpoint ▸ hlast) hpos
    · rw [heven] at hclosed
      omega
  case isFalse hopen =>
    rw [Bool.and_eq_true, decide_eq_true_eq, decide_eq_true_eq, ← Nat.cast_lt (α := ℚ),
      ← Nat.cast_lt (α := ℚ)] at h
    have ⟨hfirst, hlast⟩ := h
    have hfirst := lt_of_mul_lt_mul_right (hlow ▸ hpoint ▸ hfirst) hpos.le
    have hlast := lt_of_mul_lt_mul_right (hhigh ▸ hpoint ▸ hlast) hpos.le
    exact ⟨hfirst.le, hlast.le, fun _ => ⟨hfirst, hlast⟩⟩

/-! ## 2. The last grid -/

theorem le_quartersBelow (hf : IsFloat m e) : m ≤ quartersBelow m e * 2 ^ 52 := by
  have hroom := hf.room
  unfold quartersBelow
  split <;> omega

/-- The point below a float, if one stands for it that is only so far apart from the next. -/
theorem surrounds_floor (hf : IsFloat m e) {j : Int} (hj : (10 : ℚ) ^ j * 2 ^ 54 ≤ m * 2 ^ e) :
    Surrounds m e (((interval m e).value * Nat.pow 10 (-j).toNat /
      ((interval m e).den * Nat.pow 10 j.toNat) : Nat) * 10 ^ j) := by
  have hpos := factor_pos e j
  have hvalue := quarters_eq e j (4 * m)
  have hunit : 0 < 4 * Nat.pow 2 (-e).toNat * Nat.pow 10 j.toNat :=
    Nat.mul_pos (Nat.mul_pos (by decide) (Nat.two_pow_pos _)) (Nat.pow_pos (by decide))
  have hfour : ((4 * m : Nat) : ℚ) / 4 = m := by
    push_cast
    ring
  rw [hfour] at hvalue
  show Surrounds m e ((4 * m * Nat.pow 2 e.toNat * Nat.pow 10 (-j).toNat /
    (4 * Nat.pow 2 (-e).toNat * Nat.pow 10 j.toNat) : Nat) * 10 ^ j)
  generalize hd : 4 * m * Nat.pow 2 e.toNat * Nat.pow 10 (-j).toNat /
    (4 * Nat.pow 2 (-e).toNat * Nat.pow 10 j.toNat) = d
  have hfloor := (Nat.le_div_iff_mul_le hunit).mp hd.ge
  have hnext := (Nat.div_lt_iff_lt_mul hunit).mp (Nat.lt_succ_of_le hd.le)
  rw [← Nat.cast_le (α := ℚ), point_eq, hvalue] at hfloor
  rw [← Nat.cast_lt (α := ℚ), point_eq, hvalue] at hnext
  have hbelow : (d * 10 ^ j : ℚ) ≤ m * 2 ^ e := le_of_mul_le_mul_right hfloor hpos
  have habove : (m * 2 ^ e : ℚ) < (d + 1 : Nat) * 10 ^ j := lt_of_mul_lt_mul_right hnext hpos.le
  have he := two_zpow_pos e
  have hroom : (m : ℚ) * 2 ^ e ≤ quartersBelow m e * 2 ^ 52 * 2 ^ e := by
    apply mul_le_mul_of_nonneg_right _ he.le
    exact_mod_cast le_quartersBelow hf
  -- The next point is already above the float, and no two are a quarter of the last place apart.
  have hstep : (10 : ℚ) ^ j ≤ quartersBelow m e / 4 * 2 ^ e := by linarith
  have hlow : (m - quartersBelow m e / 4 : ℚ) * 2 ^ e < d * 10 ^ j := by
    push_cast at habove
    linarith
  have hhigh : (d * 10 ^ j : ℚ) < (m + 1 / 2) * 2 ^ e := by linarith
  exact ⟨hlow.le, hhigh.le, fun _ => ⟨hlow, hhigh⟩⟩

/-! ## 3. The leading digit -/

-- A power of ten is below one of two by the estimates `59 / 196 < log 2 / log 10 < 28 / 93`.
theorem ten_zpow_le_two_zpow {g a : Int} (hpos : 0 ≤ g → 196 * g ≤ 59 * a)
    (hneg : g < 0 → 93 * g ≤ 28 * a) : (10 : ℚ) ^ g ≤ 2 ^ a := by
  by_cases hg : 0 ≤ g
  · have hpowers : ((10 : ℚ) ^ g) ^ 59 ≤ (2 ^ a) ^ 59 :=
      calc ((10 : ℚ) ^ g) ^ 59 = (10 ^ 59) ^ g := by rw [← zpow_natCast, zpow_comm, zpow_natCast]
        _ ≤ (2 ^ 196) ^ g := zpow_le_zpow_left₀ hg (by norm_num) (by norm_num)
        _ = 2 ^ (196 * g) := by rw [zpow_mul]; rfl
        _ ≤ 2 ^ (59 * a) := zpow_le_zpow_right₀ one_le_two (hpos hg)
        _ = (2 ^ a) ^ 59 := by rw [mul_comm, zpow_mul]; rfl
    exact (pow_le_pow_iff_left₀ (ten_zpow_pos g).le (two_zpow_pos a).le (by decide)).mp hpowers
  · have hpowers : ((10 : ℚ) ^ g) ^ 28 ≤ (2 ^ a) ^ 28 :=
      calc ((10 : ℚ) ^ g) ^ 28 = (10 ^ 28) ^ g := by rw [← zpow_natCast, zpow_comm, zpow_natCast]
        _ ≤ (2 ^ 93) ^ g := zpow_le_zpow_of_nonpos (by norm_num) (by norm_num) (by omega)
        _ = 2 ^ (93 * g) := by rw [zpow_mul]; rfl
        _ ≤ 2 ^ (28 * a) := zpow_le_zpow_right₀ one_le_two (hneg (by omega))
        _ = (2 ^ a) ^ 28 := by rw [mul_comm, zpow_mul]; rfl
    exact (pow_le_pow_iff_left₀ (ten_zpow_pos g).le (two_zpow_pos a).le (by decide)).mp hpowers

theorem ten_zpow_le_of_reaches {num den : Nat} (hden : 0 < den) {k : Int}
    (h : den * Nat.pow 10 k.toNat ≤ num * Nat.pow 10 (-k).toNat) : (10 : ℚ) ^ k ≤ num / den := by
  have hden' : (0 : ℚ) < den := by exact_mod_cast hden
  have hcast : (den * 10 ^ k.toNat : ℚ) ≤ num * 10 ^ (-k).toNat := by exact_mod_cast h
  rw [← zpow_mul_pow (show (10 : ℚ) ≠ 0 by norm_num) k, ← mul_assoc] at hcast
  rw [le_div_iff₀ hden', mul_comm]
  exact le_of_mul_le_mul_right hcast (pow_pos (by norm_num) _)

/-- The leading digit is not looked for in too high a place. -/
theorem ten_zpow_leading_le {num den : Nat} (hnum : 0 < num) (hden : 0 < den)
    (hlow : -10000 ≤ (num.log2 : Int) - den.log2) (hhigh : (num.log2 : Int) - den.log2 ≤ 10000) :
    (10 : ℚ) ^ leading num den ≤ num / den := by
  unfold leading
  simp only [decide_eq_true_eq]
  split
  case isTrue h => exact ten_zpow_le_of_reaches hden h
  case isFalse =>
    split
    case isTrue h => exact ten_zpow_le_of_reaches hden h
    case isFalse =>
      have hden' : (0 : ℚ) < den := by exact_mod_cast hden
      have hfirst : (2 : ℚ) ^ num.log2 ≤ num := by exact_mod_cast Nat.log2_self_le (Nat.ne_of_gt hnum)
      have hlast : (den : ℚ) ≤ 2 ^ (den.log2 + 1) := by exact_mod_cast Nat.lt_log2_self.le
      have hquotient : (2 : ℚ) ^ ((num.log2 : Int) - den.log2 - 1) ≤ num / den := by
        rw [le_div_iff₀ hden']
        calc (2 : ℚ) ^ ((num.log2 : Int) - den.log2 - 1) * den
            ≤ 2 ^ ((num.log2 : Int) - den.log2 - 1) * 2 ^ (den.log2 + 1) :=
              mul_le_mul_of_nonneg_left hlast (two_zpow_pos _).le
          _ = 2 ^ num.log2 := by
              rw [← zpow_natCast, ← zpow_natCast, ← zpow_add₀ two_ne_zero]
              congr 1
              omega
          _ ≤ num := hfirst
      exact (ten_zpow_le_two_zpow (by omega) (by omega)).trans hquotient

theorem interval_quotient (m : Nat) (e : Int) :
    ((interval m e).value : ℚ) / (interval m e).den = m * 2 ^ e := by
  have hpower := zpow_mul_pow (two_ne_zero' ℚ) e
  have hpos : (0 : ℚ) < 2 ^ (-e).toNat := pow_pos two_pos _
  simp only [interval]
  push_cast [Nat.pow_eq]
  rw [div_eq_iff (by positivity), ← hpower]
  ring

theorem log2_interval (hf : IsFloat m e) :
    (interval m e).value.log2 < 1026 ∧ (interval m e).den.log2 < 1077 := by
  have ⟨hm, hroom, hleast, hlargest, _⟩ := hf
  have hfour : (4 * m).log2 < 55 := (Nat.log2_lt (by omega)).mpr (by omega)
  constructor
  · show (4 * m * 2 ^ e.toNat).log2 < 1026
    rw [← Nat.shiftLeft_eq, log2_shiftLeft (by omega)]
    omega
  · show (4 * 2 ^ (-e).toNat).log2 < 1077
    rw [← Nat.shiftLeft_eq, log2_shiftLeft (by decide), show Nat.log2 4 = 2 from @Nat.log2_two_pow 2]
    omega

/-! ## 4. The digits -/

-- The grids are tried from coarse to fine, and the last one is fine enough.
theorem surrounds_firstGrid (hf : IsFloat m e) (tie : Tie) (tries : Nat) {j : Int}
    (hj : (10 : ℚ) ^ (j - tries) * 2 ^ 54 ≤ m * 2 ^ e) :
    Surrounds m e (firstGrid tie (interval m e) tries j).value := by
  induction tries generalizing j with
  | zero =>
    rw [Nat.cast_zero, Int.sub_zero] at hj
    exact surrounds_floor hf hj
  | succ tries ih =>
    rw [firstGrid]
    split
    case h_1 d hd => exact surrounds_of_isInside hf.pos (isInside_of_onGrid? hd)
    case h_2 =>
      apply ih
      rw [show j - 1 - (tries : Int) = j - (tries + 1 : Nat) by omega]
      exact hj

theorem value_stripZeros (fuel : Nat) (d : Digits) : (d.stripZeros fuel).value = d.value := by
  induction fuel generalizing d with
  | zero => rfl
  | succ fuel ih =>
    rw [Digits.stripZeros]
    split
    case isTrue h =>
      have hten : (d.digits : ℚ) = 10 * (d.digits / 10 : Nat) := by
        exact_mod_cast (Nat.mul_div_cancel' (Nat.dvd_of_mod_eq_zero h.2)).symm
      rw [ih, Digits.value, Digits.value, zpow_add_one₀ (by norm_num), hten]
      ring
    case isFalse => rfl

/-- The shortest digits of a float stand for a decimal that is read as the float. -/
theorem surrounds_digits (hf : IsFloat m e) (tie : Tie) : Surrounds m e (digits tie m e).value := by
  have hlogs := log2_interval hf
  have hnum : 0 < (interval m e).value :=
    Nat.mul_pos (Nat.mul_pos (by decide) hf.pos) (Nat.two_pow_pos _)
  have hden : 0 < (interval m e).den := Nat.mul_pos (by decide) (Nat.two_pow_pos _)
  have hleading := ten_zpow_leading_le hnum hden (by omega) (by omega)
  rw [interval_quotient] at hleading
  rw [digits, if_neg (Nat.ne_of_gt hf.pos)]
  simp only
  rw [value_stripZeros]
  apply surrounds_firstGrid hf
  calc (10 : ℚ) ^ (leading (interval m e).value (interval m e).den - (17 : Nat)) * 2 ^ 54
      = 10 ^ leading (interval m e).value (interval m e).den * (2 ^ 54 / 10 ^ 17) := by
        rw [zpow_sub₀ (by norm_num), zpow_natCast]
        ring
    _ ≤ 10 ^ leading (interval m e).value (interval m e).den * 1 := by
        apply mul_le_mul_of_nonneg_left _ (ten_zpow_pos _).le
        norm_num
    _ ≤ m * 2 ^ e := by
        rw [mul_one]
        exact hleading

end Shortest

end Quarry.Number
