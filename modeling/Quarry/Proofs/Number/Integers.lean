import Quarry.Number.FloatParts
import Quarry.Proofs.Number.Sign

/-!
# Floats of integers

The float nearest to a 64-bit integer is a normal number unless the integer is zero, so that a test for zero
may be made before or after the conversion.
-/

namespace Quarry.Number

open Float.Model (Format UnpackedFloat totalExponent)
open Float.Model.UnpackedFloat (Sign Accuracy ExtendedMantissa decreaseExponent roundWithAccuracy
  shiftToExponent shiftToTargetExponent)

/-! ## 1. Mantissas -/

theorem mantissa_shiftRight (em : ExtendedMantissa) (k : Nat) :
    (em >>> k).mantissa = em.mantissa / 2 ^ k := by
  show (k.repeat ExtendedMantissa.shiftRightOne em).mantissa = _
  induction k with
  | zero => simp [Nat.repeat]
  | succ k ih =>
    rw [Nat.repeat, ExtendedMantissa.shiftRightOne, ih, Nat.div_div_eq_div_mul, Nat.pow_succ]

theorem roundedMantissa_bounds (em : ExtendedMantissa) :
    em.mantissa ≤ em.roundedMantissa ∧ em.roundedMantissa ≤ em.mantissa + 1 := by
  rw [ExtendedMantissa.roundedMantissa]
  unfold Accuracy.roundToNearestEven
  split <;> omega

-- The exponent that a mantissa of 53 bits has in the end, unless the number is tiny.
theorem targetExponent_eq {m : Nat} {e : Int} (h : -1022 ≤ m.log2 + e) :
    Format.binary64.targetExponent (totalExponent m e) = m.log2 + e - 52 := by
  simp only [Format.targetExponent, totalExponent, Format.mantissaBits, Format.minExponent]
  omega

-- Without the bits behind the first 53 a mantissa has 53.
theorem div_bounds {m : Nat} (hm : 52 ≤ m.log2) :
    2 ^ 52 ≤ m / 2 ^ (m.log2 - 52) ∧ m / 2 ^ (m.log2 - 52) < 2 ^ 53 := by
  have hne : m ≠ 0 := by
    rintro rfl
    exact absurd hm (by decide)
  have hlow : 2 ^ 52 * 2 ^ (m.log2 - 52) = 2 ^ m.log2 := by
    rw [← Nat.pow_add, Nat.add_sub_cancel' hm]
  have hhigh : 2 ^ (m.log2 - 52) * 2 ^ 53 = 2 ^ (m.log2 + 1) := by
    rw [← Nat.pow_add, show m.log2 - 52 + 53 = m.log2 + 1 by omega]
  constructor
  · rw [Nat.le_div_iff_mul_le (Nat.two_pow_pos _), hlow]
    exact Nat.log2_self_le hne
  · apply Nat.div_lt_of_lt_mul
    rw [hhigh]
    exact Nat.lt_log2_self

theorem shiftToTargetExponent_eq {m : Nat} {e : Int} (hm : 52 ≤ m.log2) (he : -1074 ≤ e) :
    ∃ em, shiftToTargetExponent .binary64 m e .exact = (em, m.log2 + e - 52) ∧
      em.mantissa = m / 2 ^ (m.log2 - 52) := by
  have htarget := targetExponent_eq (m := m) (e := e) (by omega)
  have hamount : (m.log2 + e - 52 - e).toNat = m.log2 - 52 := by omega
  have hexponent : e + ((m.log2 - 52 : Nat) : Int) = m.log2 + e - 52 := by omega
  rw [shiftToTargetExponent, htarget]
  dsimp only [shiftToExponent]
  rw [hamount, hexponent]
  exact ⟨_, rfl, mantissa_shiftRight _ _⟩

/-- Rounding a mantissa of at least 53 bits leaves one of 53. The exponent grows by the number of bits that
are dropped, and once more if rounding up takes a further bit. -/
theorem roundWithAccuracy_eq {s : Sign} {m : Nat} {e : Int} (hm : 52 ≤ m.log2) (he : -1074 ≤ e) :
    ∃ m' e' hpos, roundWithAccuracy .binary64 s m e .exact = .finite s m' e' hpos ∧
      m'.log2 = 52 ∧ m.log2 + e - 52 ≤ e' ∧ e' ≤ m.log2 + e - 51 := by
  have ⟨em, hfirst, hmantissa⟩ := shiftToTargetExponent_eq hm he
  have hbounds := div_bounds hm
  have hrounded := roundedMantissa_bounds em
  rw [hmantissa] at hrounded
  have hne : em.roundedMantissa ≠ 0 := by omega
  have hlow : 52 ≤ em.roundedMantissa.log2 := (Nat.le_log2 hne).mpr (by omega)
  have hhigh : em.roundedMantissa.log2 < 54 := (Nat.log2_lt hne).mpr (by omega)
  have ⟨em', hsecond, hmantissa'⟩ :=
    shiftToTargetExponent_eq (e := m.log2 + e - 52) hlow (by omega)
  have hbounds' := div_bounds hlow
  rw [← hmantissa'] at hbounds'
  have hpos : em'.mantissa ≠ 0 := by omega
  refine ⟨em'.mantissa, em.roundedMantissa.log2 + (m.log2 + e - 52) - 52, Nat.pos_of_ne_zero hpos,
    ?_, (Nat.log2_eq_iff hpos).mpr hbounds', by omega, by omega⟩
  simp only [roundWithAccuracy, hfirst, hsecond]
  rw [dif_neg hpos]

theorem log2_shiftLeft {k : Nat} (hk : k ≠ 0) (amount : Nat) :
    (k <<< amount).log2 = k.log2 + amount := by
  induction amount with
  | zero => rfl
  | succ amount ih =>
    have hne : k <<< amount ≠ 0 := by simp [hk]
    rw [Nat.shiftLeft_succ, Nat.log2_two_mul hne, ih]
    rfl

/-! ## 2. Conversion -/

-- A mantissa of at most 64 bits is filled up to 53 before it is rounded.
theorem round_eq {s : Sign} {k : Nat} (hpos : 0 < k) (hk : k < 2 ^ 64) :
    ∃ m e hm, UnpackedFloat.round .binary64 s k 0 = .finite s m e hm ∧ m.log2 = 52 ∧
      -52 ≤ e ∧ e ≤ 12 := by
  have hlog : k.log2 < 64 := (Nat.log2_lt (by omega)).mpr hk
  have htarget := targetExponent_eq (m := k) (e := 0) (by omega)
  have hamount : (0 - ((k.log2 : Int) + 0 - 52)).toNat = 52 - k.log2 := by omega
  have hfilled := log2_shiftLeft (Nat.ne_of_gt hpos) (52 - k.log2)
  have ⟨m, e, hm, hround, hlog', hlow, hhigh⟩ :=
    @roundWithAccuracy_eq s (k <<< (52 - k.log2)) (0 - (52 - k.log2 : Nat)) (by omega) (by omega)
  refine ⟨m, e, hm, ?_, hlog', by omega, by omega⟩
  rw [← hround, UnpackedFloat.round, htarget]
  simp only [decreaseExponent, hamount]

theorem pack_eq {s : Sign} {m : Nat} {e : Int} {hm : 0 < m} (hlog : m.log2 = 52) (hlow : -52 ≤ e)
    (hhigh : e ≤ 12) : UnpackedFloat.pack .binary64 (.finite s m e hm) =
      fields s (BitVec.ofNat 11 (e + 1075).toNat) (BitVec.ofNat 52 m) := by
  have hbias : e + (Format.binary64.exponentBias : Int) + (52 : Nat) = e + 1075 := by
    simp only [Format.exponentBias]
    omega
  have hroom : ¬2 ^ 11 ≤ (e + 1075).toNat + 1 := by omega
  have hbits : 52 + 1 = Format.binary64.mantissaBits := rfl
  simp only [UnpackedFloat.pack, hbias, hlog]
  rw [if_neg hroom, if_pos hbits]
  rfl

/-- Apart from zero, an integer of at most 64 bits becomes a normal number. -/
theorem exists_fields_ofInt {n : Int} (hn : n ≠ 0) (hbits : n.natAbs < 2 ^ 64) :
    ∃ s e m, UnpackedFloat.pack .binary64 (.ofInt .binary64 n) = fields s e m ∧ e ≠ 0#11 ∧
      e ≠ -1#11 := by
  have hround : ∃ s, UnpackedFloat.ofInt .binary64 n = .round .binary64 s n.natAbs 0 := by
    unfold UnpackedFloat.ofInt UnpackedFloat.normalize
    split
    case h_1 h =>
      have hneg : n < 0 := Std.compare_eq_lt.mp h
      rw [show (-n).toNat = n.natAbs by omega]
      exact ⟨_, rfl⟩
    case h_2 h => exact absurd (Std.LawfulEqCmp.eq_of_compare h) hn
    case h_3 h =>
      have hpos : n > 0 := Std.compare_eq_gt.mp h
      rw [show n.toNat = n.natAbs by omega]
      exact ⟨_, rfl⟩
  have ⟨s, hs⟩ := hround
  have ⟨m, e, hm, hfinite, hlog, hlow, hhigh⟩ := @round_eq s n.natAbs (by omega) hbits
  have hfield : (BitVec.ofNat 11 (e + 1075).toNat).toNat = (e + 1075).toNat := by
    rw [BitVec.toNat_ofNat, Nat.mod_eq_of_lt (by omega)]
  rw [hs, hfinite, pack_eq hlog hlow hhigh]
  refine ⟨_, _, _, rfl, fun hzero => ?_, fun hones => ?_⟩
  · rw [hzero, show (0#11).toNat = 0 from rfl] at hfield
    omega
  · rw [hones, show (-1#11).toNat = 2047 from rfl] at hfield
    omega

-- No such number equals zero.
theorem beq_zero_of_fields {x : Float} {s : Sign} {e : BitVec 11} {m : BitVec 52}
    (h : x.toBits.toBitVec = fields s e m) (he : e ≠ 0#11) : (x == 0) = false := by
  have hzero : (0 : Float).toModel.unpack = .zero .positive := by rfl
  show (x.toModel.unpack.compare (0 : Float).toModel.unpack == some .eq) = false
  rw [hzero]
  have hdenotes := denotes_toModel h
  cases hunpack : x.toModel.unpack with
  | zero s' =>
    rw [hunpack] at hdenotes
    cases hdenotes
    contradiction
  | notANumber => rfl
  | infinity s' => cases s' <;> rfl
  | finite s' m' e' hm' => cases s' <;> rfl

theorem exists_fields_ofInt64 {n : Int64} (hn : n ≠ 0) :
    ∃ s e m, (ofInt64 n).toBits.toBitVec = fields s e m ∧ e ≠ 0#11 ∧ e ≠ -1#11 := by
  have hne : n.toInt ≠ 0 := fun h => hn (Int64.toInt_inj.mp h)
  have hlow := n.minValue_le_toInt
  have hhigh := n.toInt_le
  have hbits : n.toInt.natAbs < 2 ^ 64 := by
    simp only [Int64.toInt_minValue, Int64.toInt_maxValue] at hlow hhigh
    omega
  exact exists_fields_ofInt hne hbits

/-- The float nearest to an integer equals zero exactly if the integer is zero. -/
theorem ofInt64_beq_zero (n : Int64) : (ofInt64 n == 0) = decide (n = 0) := by
  by_cases hn : n = 0
  · rw [hn]
    rfl
  · have ⟨s, e, m, hfields, he, _⟩ := exists_fields_ofInt64 hn
    rw [decide_eq_false hn]
    exact beq_zero_of_fields hfields he

/-- The float nearest to an integer is a number. -/
theorem isNaN_ofInt64 (n : Int64) : (ofInt64 n).isNaN = false := by
  by_cases hn : n = 0
  · rw [hn]
    rfl
  · have ⟨s, e, m, hfields, _, he⟩ := exists_fields_ofInt64 hn
    have hsign : HasSign s (ofInt64 n) := ⟨e, m, hfields, fun hnan => he hnan.1⟩
    exact hsign.isNaN

end Quarry.Number
