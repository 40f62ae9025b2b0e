import Mathlib.Tactic.FieldSimp
import Mathlib.Tactic.Positivity
import Mathlib.Tactic.GCongr
import Mathlib.Tactic.Ring
import Quarry.Proofs.Number.Nearest

/-!
# Decimals as floats

A decimal that lies around a float is read as that float, whether its digits and its power of ten are floats
themselves or it is rounded from exact numbers.
-/

namespace Quarry.Number

open Float.Model (Format UnpackedFloat totalExponent)
open Float.Model.UnpackedFloat (Sign roundWithAccuracy decreaseExponent)

/-! ## 1. Floats and their parts -/

theorem toNat_one_append (m : BitVec 52) : (1#1 ++ m).toNat = 2 ^ 52 + m.toNat := by
  rw [BitVec.toNat_append, ← Nat.shiftLeft_add_eq_or_of_lt m.isLt]
  rfl

theorem Denotes.isFloat {s t : Sign} {e : BitVec 11} {m : BitVec 52} {n : Nat} {d : Int} {hn : 0 < n}
    (h : Denotes s e m (.finite t n d hn)) : IsFloat n d := by
  have hm := m.isLt
  cases h with
  | subnormal => exact ⟨hn, by omega, le_refl _, by decide, .inr rfl⟩
  | normal h0 h1 =>
    have he := e.isLt
    have hzero : e.toNat ≠ 0 := fun h => h0 (BitVec.eq_of_toNat_eq h)
    have hones : e.toNat ≠ 2047 := fun h => h1 (BitVec.eq_of_toNat_eq h)
    rw [toNat_one_append] at hn ⊢
    exact ⟨hn, by omega, by omega, by omega, .inl (by omega)⟩

theorem isFloat_of_unpack {x : Float} {s : Sign} {m : Nat} {e : Int} {hm : 0 < m}
    (h : x.toModel.unpack = .finite s m e hm) : IsFloat m e := by
  have ⟨_, _, _, hbits⟩ := exists_fields x.toBits.toBitVec
  exact (h ▸ denotes_toModel hbits).isFloat

-- A full mantissa is stored without its leading bit, any other with the least exponent.
theorem exists_denotes {s : Sign} {m : Nat} {e : Int} (hf : IsFloat m e) : ∃ b f,
    UnpackedFloat.pack .binary64 (.finite s m e hf.pos) = fields s b f ∧
      Denotes s b f (.finite s m e hf.pos) := by
  have ⟨hpos, hroom, hleast, hlargest, hfull⟩ := hf
  have hbias : e + (Format.binary64.exponentBias : Int) + (52 : Nat) = e + 1075 := by
    simp only [Format.exponentBias]
    omega
  have hstored : ¬2 ^ 11 ≤ (e + 1075).toNat + 1 := by omega
  have hwidth : Format.binary64.mantissaBits = 53 := rfl
  simp only [UnpackedFloat.pack, hbias, hwidth]
  rw [if_neg hstored]
  by_cases hbits : 2 ^ 52 ≤ m
  · have hlog : m.log2 + 1 = 53 := by
      rw [(Nat.log2_eq_iff (Nat.ne_of_gt hpos)).mpr ⟨hbits, hroom⟩]
    have he : (BitVec.ofNat 11 (e + 1075).toNat).toNat = (e + 1075).toNat := by
      rw [BitVec.toNat_ofNat, Nat.mod_eq_of_lt (by omega)]
    have hm : (1#1 ++ BitVec.ofNat 52 m).toNat = m := by
      rw [toNat_one_append, BitVec.toNat_ofNat]
      omega
    have h0 : BitVec.ofNat 11 (e + 1075).toNat ≠ 0#11 := fun h => by
      rw [h, show (0#11).toNat = 0 from rfl] at he
      omega
    have h1 : BitVec.ofNat 11 (e + 1075).toNat ≠ -1#11 := fun h => by
      rw [h, show (-1#11).toNat = 2047 from rfl] at he
      omega
    have hdenotes := @Denotes.normal s _ _ h0 h1 (hm.symm ▸ hpos)
    simp only [hm, he, show ((e + 1075).toNat : Int) - 1075 = e by omega] at hdenotes
    rw [if_pos hlog]
    exact ⟨_, _, rfl, hdenotes⟩
  · have he : e = -1074 := hfull.resolve_left hbits
    subst he
    have hlog : m.log2 + 1 ≠ 53 := by
      have := (Nat.log2_lt (Nat.ne_of_gt hpos)).mpr (Nat.lt_of_not_le hbits)
      omega
    have hm : (BitVec.ofNat 52 m).toNat = m := by
      rw [BitVec.toNat_ofNat, Nat.mod_eq_of_lt (by omega)]
    have hdenotes := @Denotes.subnormal s (BitVec.ofNat 52 m) (hm.symm ▸ hpos)
    simp only [hm] at hdenotes
    rw [if_neg hlog]
    exact ⟨_, _, rfl, hdenotes⟩

/-- Packing a float loses nothing. -/
theorem unpack_pack {s : Sign} {m : Nat} {e : Int} (hf : IsFloat m e) :
    UnpackedFloat.unpack .binary64 (UnpackedFloat.pack .binary64 (.finite s m e hf.pos)) =
      .finite s m e hf.pos := by
  have ⟨b, f, hpack, hdenotes⟩ := exists_denotes (s := s) hf
  rw [hpack]
  exact (denotes_unpack s b f).unique hdenotes

-- A number or an infinity is made of its parts.
theorem ofModel_pack {x : Float} {u : UnpackedFloat} (h : x.toModel.unpack = u) (hu : u.isNaN = false) :
    Float.ofModel (.pack u) = x := by
  have hnan : ¬@UnpackedFloat.isNaNBits .binary64 x.toBits.toBitVec := by
    have ⟨s, b, f, hbits⟩ := exists_fields x.toBits.toBitVec
    have hdenotes := h ▸ denotes_toModel hbits
    rw [hbits, isNaNBits_fields, ← hdenotes.isNaN, hu]
    exact Bool.false_ne_true
  have hpack := @UnpackedFloat.pack_unpack .binary64 x.toBits.toBitVec (by decide)
  rw [if_neg hnan] at hpack
  refine Float.toBits_inj.mp (UInt64.toBitVec_inj.mp ?_)
  show UnpackedFloat.pack .binary64 u = x.toBits.toBitVec
  rw [← h]
  exact hpack

/-! ## 2. Powers -/

-- A power with a negative exponent is the reciprocal of one without.
theorem zpow_mul_pow {b : ℚ} (hb : b ≠ 0) (e : Int) : b ^ e * b ^ (-e).toNat = b ^ e.toNat := by
  rw [← zpow_natCast, ← zpow_natCast, ← zpow_add₀ hb]
  congr 1
  omega

-- With a negative exponent the greater base has the smaller power.
theorem zpow_le_zpow_of_nonpos {b c : ℚ} (hb : 0 < b) (h : b ≤ c) {k : Int} (hk : k ≤ 0) :
    c ^ k ≤ b ^ k := by
  have hinverse : b ^ (-k) ≤ c ^ (-k) := zpow_le_zpow_left₀ (by omega) hb.le h
  rw [zpow_neg, zpow_neg] at hinverse
  exact (inv_le_inv₀ (zpow_pos hb k) (zpow_pos (hb.trans_le h) k)).mp hinverse

section Bounds

variable {m : Nat} {e : Int} {q : ℚ} (hf : IsFloat m e) (hq : Surrounds m e q)

include hf hq

theorem least_le_of_surrounds : (2 : ℚ) ^ (-1075 : Int) ≤ q := by
  have hm : (1 : ℚ) ≤ m := by exact_mod_cast hf.pos
  have hbelow : (quartersBelow m e : ℚ) ≤ 2 := by
    unfold quartersBelow
    split <;> norm_num
  have hleast : (2 : ℚ) ^ (-1074 : Int) ≤ 2 ^ e := zpow_le_zpow_right₀ one_le_two hf.least
  have hhalf : (2 : ℚ) ^ (-1075 : Int) = 1 / 2 * 2 ^ (-1074 : Int) := by
    rw [show (-1074 : Int) = -1075 + 1 by decide, zpow_add_one₀ two_ne_zero]
    ring
  calc (2 : ℚ) ^ (-1075 : Int) = 1 / 2 * 2 ^ (-1074 : Int) := hhalf
    _ ≤ 1 / 2 * 2 ^ e := by gcongr
    _ ≤ (m - quartersBelow m e / 4 : ℚ) * 2 ^ e := by
      apply mul_le_mul_of_nonneg_right _ (two_zpow_pos e).le
      linarith
    _ ≤ q := hq.low

theorem lt_largest_of_surrounds : q < (2 : ℚ) ^ (1024 : Int) := by
  have hlargest := hf.largest
  exact (hq.lt_next hf).trans_le (zpow_le_zpow_right₀ one_le_two (by omega))

end Bounds

/-! ## 3. Rounding decimals -/

section Scientific

variable {m : Nat} {e : Int} (hf : IsFloat m e) {n : Nat} {k : Int} (hq : Surrounds m e (n * 10 ^ k))

include hf hq

theorem digits_ne_zero : n ≠ 0 := by
  rintro rfl
  have hleast := least_le_of_surrounds hf hq
  rw [Nat.cast_zero, zero_mul] at hleast
  exact absurd hleast (not_le.mpr (two_zpow_pos _))

-- Neither overflows nor vanishes a decimal that lies around a float.
theorem exponent_bounds : k ≤ 2048 ∧ -(2048 + (n.log2 : Int)) ≤ k := by
  have hn := digits_ne_zero hf hq
  have hlog : (n : ℚ) < 2 ^ (n.log2 + 1) := by exact_mod_cast Nat.lt_log2_self
  have hone : (1 : ℚ) ≤ n := by exact_mod_cast Nat.pos_of_ne_zero hn
  constructor
  · by_contra hk
    have hpower : (2 : ℚ) ^ k ≤ 10 ^ k := zpow_le_zpow_left₀ (by omega) two_pos.le (by norm_num)
    have hlt : (2 : ℚ) ^ k < 2 ^ (1024 : Int) :=
      calc (2 : ℚ) ^ k ≤ 10 ^ k := hpower
        _ ≤ n * 10 ^ k := le_mul_of_one_le_left (zpow_pos (by norm_num) k).le hone
        _ < 2 ^ (1024 : Int) := lt_largest_of_surrounds hf hq
    rw [zpow_lt_zpow_iff_right₀ one_lt_two] at hlt
    omega
  · by_contra hk
    have hpower : (10 : ℚ) ^ k ≤ 2 ^ k := zpow_le_zpow_of_nonpos two_pos (by norm_num) (by omega)
    have hlt : (2 : ℚ) ^ (-1075 : Int) < 2 ^ ((n.log2 + 1 : Nat) + k) :=
      calc (2 : ℚ) ^ (-1075 : Int) ≤ n * 10 ^ k := least_le_of_surrounds hf hq
        _ ≤ n * 2 ^ k := by gcongr
        _ < 2 ^ (n.log2 + 1) * 2 ^ k := mul_lt_mul_of_pos_right hlog (two_zpow_pos k)
        _ = 2 ^ ((n.log2 + 1 : Nat) + k) := by rw [zpow_add₀ two_ne_zero, zpow_natCast]
    rw [zpow_lt_zpow_iff_right₀ one_lt_two] at hlt
    omega

theorem ofScientific_of_surrounds :
    UnpackedFloat.ofScientific .binary64 n k = .finite .positive m e hf.pos := by
  have hn := digits_ne_zero hf hq
  have hbounds := exponent_bounds hf hq
  have hhigh : ¬k > 2 ^ Format.binary64.exponentBits := by
    show ¬k > 2048
    omega
  have hlow : ¬k < -(2 ^ Format.binary64.exponentBits + (n.log2 : Int)) := by
    show ¬k < -(2048 + (n.log2 : Int))
    omega
  rw [UnpackedFloat.ofScientific, dif_neg hn, if_neg hhigh, if_neg hlow]
  by_cases hk : 0 ≤ k
  · rw [if_pos hk]
    have hpower : (10 : ℚ) ^ k.toNat = 10 ^ k := by
      rw [← zpow_natCast, Int.toNat_of_nonneg hk]
    have hwidth : Format.binary64.mantissaBits = 53 := rfl
    apply mul_of_surrounds hf
    · rw [hwidth, Nat.shiftLeft_eq]
      calc 2 ^ 52 ≤ 1 * 2 ^ 53 * 1 := by decide
        _ ≤ n * 2 ^ 53 * 10 ^ k.toNat :=
          Nat.mul_le_mul (Nat.mul_le_mul_right _ (Nat.pos_of_ne_zero hn)) (Nat.pow_pos (by decide))
    · rw [hwidth, Nat.shiftLeft_eq]
      push_cast
      rw [hpower, zpow_neg, mul_one]
      convert hq using 2
      norm_num
      ring
  · rw [if_neg hk]
    have hpower : (10 : ℚ) ^ (-k).toNat = (10 ^ k)⁻¹ := by
      rw [← zpow_natCast, Int.toNat_of_nonneg (by omega), zpow_neg]
    apply div_of_surrounds hf
    push_cast
    rw [hpower, mul_one, mul_one, div_inv_eq_mul]
    exact hq

end Scientific

/-! ## 4. Small decimals -/

/-- Whether a float is a power of ten above zero, with a full mantissa. -/
def isTenTo (n : Nat) : UnpackedFloat → Bool
  | .finite .positive m e _ => 2 ^ 52 ≤ m && m * 2 ^ e.toNat == 10 ^ n * 2 ^ (-e).toNat
  | _ => false

theorem isTenTo_powersOfTen : ∀ i : Fin Float.exactlyRepresentablePowersOfTen.size,
    isTenTo i (getElem Float.exactlyRepresentablePowersOfTen i.val i.isLt).toModel.unpack := by
  decide +kernel

theorem exists_of_isTenTo {n : Nat} {u : UnpackedFloat} (h : isTenTo n u) :
    ∃ m e hm, u = .finite .positive m e hm ∧ 2 ^ 52 ≤ m ∧ (m * 2 ^ e : ℚ) = 10 ^ n := by
  unfold isTenTo at h
  split at h
  case h_1 m e hm =>
    rw [Bool.and_eq_true, decide_eq_true_eq, beq_iff_eq] at h
    refine ⟨m, e, hm, rfl, h.1, ?_⟩
    have hvalue : (m * 2 ^ e.toNat : ℚ) = 10 ^ n * 2 ^ (-e).toNat := by exact_mod_cast h.2
    rw [← zpow_mul_pow two_ne_zero, ← mul_assoc] at hvalue
    exact mul_right_cancel₀ (pow_pos two_pos _).ne' hvalue
  case h_2 => cases h

theorem surrounds_self {m : Nat} {e : Int} : Surrounds m e (m * 2 ^ e) := by
  have hbelow : (0 : ℚ) < quartersBelow m e / 4 := by
    unfold quartersBelow
    split <;> norm_num
  have he := two_zpow_pos e
  have hlow : (m - quartersBelow m e / 4 : ℚ) * 2 ^ e < m * 2 ^ e :=
    mul_lt_mul_of_pos_right (by linarith) he
  have hhigh : (m * 2 ^ e : ℚ) < (m + 1 / 2 : ℚ) * 2 ^ e :=
    mul_lt_mul_of_pos_right (by linarith) he
  exact ⟨hlow.le, hhigh.le, fun _ => ⟨hlow, hhigh⟩⟩

/-- A whole number of at most 53 bits becomes a float of the same value. -/
theorem exists_of_ofNat {n : Nat} (hpos : 0 < n) (hn : n < 2 ^ 53) : ∃ m e, ∃ hf : IsFloat m e,
    UnpackedFloat.ofNat .binary64 n = .finite .positive m e hf.pos ∧ 2 ^ 52 ≤ m ∧
      (m * 2 ^ e : ℚ) = n := by
  have hlog : n.log2 < 53 := (Nat.log2_lt (Nat.ne_of_gt hpos)).mpr hn
  generalize ha : 52 - n.log2 = a
  have hlow : 2 ^ 52 ≤ n * 2 ^ a := by
    calc 2 ^ 52 = 2 ^ n.log2 * 2 ^ a := by rw [← Nat.pow_add]; congr 1; omega
      _ ≤ n * 2 ^ a := Nat.mul_le_mul_right _ (Nat.log2_self_le (Nat.ne_of_gt hpos))
  have hhigh : n * 2 ^ a < 2 ^ 53 := by
    calc n * 2 ^ a < 2 ^ (n.log2 + 1) * 2 ^ a :=
          Nat.mul_lt_mul_of_pos_right Nat.lt_log2_self (Nat.two_pow_pos a)
      _ = 2 ^ 53 := by rw [← Nat.pow_add]; congr 1; omega
  have hf : IsFloat (n * 2 ^ a) (-a) := ⟨by omega, hhigh, by omega, by omega, .inl hlow⟩
  have hcompare : compare (n : Int) 0 = .gt := Std.compare_eq_gt.mpr (by omega)
  have hamount : (0 - max ((n.log2 : Int) + 0 - 52) (-1074)).toNat = a := by omega
  have hround : UnpackedFloat.ofNat .binary64 n =
      roundWithAccuracy .binary64 .positive (n * 2 ^ a) (-a) .exact := by
    rw [UnpackedFloat.ofNat, UnpackedFloat.ofInt, UnpackedFloat.normalize, hcompare]
    simp only [UnpackedFloat.round, decreaseExponent, target_eq, Int.toNat_natCast, hamount,
      Nat.shiftLeft_eq]
    rw [Int.zero_sub]
  have hvalue : ((n * 2 ^ a : Nat) * 2 ^ (-a : Int) : ℚ) / 2 ^ (-a : Int) = (n * 2 ^ a : Nat) :=
    mul_div_cancel_right₀ _ (two_zpow_pos _).ne'
  refine ⟨n * 2 ^ a, -a, hf, ?_, hlow, ?_⟩
  · rw [hround]
    apply roundWithAccuracy_of_surrounds hf surrounds_self
    · rw [hvalue]
      exact .ofMantissa _
    · rw [target_eq, (Nat.log2_eq_iff (by omega)).mpr ⟨hlow, hhigh⟩]
      omega
  · push_cast
    rw [zpow_neg, zpow_natCast, mul_assoc, mul_inv_cancel₀ (pow_pos two_pos a).ne', mul_one]

-- The float of such a number has its parts.
theorem unpack_toFloat {n : Nat} (hpos : 0 < n) (hn : n < 2 ^ 53) : ∃ m e hm,
    n.toUInt64.toFloat.toModel.unpack = .finite .positive m e hm ∧ 2 ^ 52 ≤ m ∧
      (m * 2 ^ e : ℚ) = n := by
  have ⟨m, e, hf, hofNat, hfull, hvalue⟩ := exists_of_ofNat hpos hn
  refine ⟨m, e, hf.pos, ?_, hfull, hvalue⟩
  have hword : n.toUInt64.toNat = n := UInt64.toNat_ofNat_of_lt (hn.trans (by decide))
  show UnpackedFloat.unpack .binary64
    (UnpackedFloat.pack .binary64 (.ofNat .binary64 n.toUInt64.toNat)) = _
  rw [hword, hofNat]
  exact unpack_pack hf

section Reading

variable {x : Float} {m : Nat} {e : Int} {hm : 0 < m} (hx : x.toModel.unpack = .finite .positive m e hm)

include hx

theorem ofScientific_eq {n k : Nat} {fraction : Bool}
    (hq : Surrounds m e (n * 10 ^ (if fraction then -(k : Int) else k))) :
    Float.ofScientific n fraction k = x := by
  have hf := isFloat_of_unpack hx
  unfold Float.ofScientific
  split
  case isTrue h =>
    -- Digits and power are floats themselves, and are multiplied or divided.
    have hpos := Nat.pos_of_ne_zero (digits_ne_zero hf hq)
    rcases unpack_toFloat hpos h.1 with ⟨m₁, e₁, h₁, hdigits, hfull₁, hvalue₁⟩
    have hk : k < Float.exactlyRepresentablePowersOfTen.size := Nat.lt_succ_of_le h.2
    rcases exists_of_isTenTo (isTenTo_powersOfTen ⟨k, hk⟩) with ⟨m₂, e₂, h₂, hpower, hfull₂, hvalue₂⟩
    cases fraction with
    | true =>
      have hdiv := @div_of_surrounds m m₁ m₂ e e₁ e₂ h₁ h₂ hf (by
        rw [hvalue₁, hvalue₂, div_eq_mul_inv, ← zpow_natCast, ← zpow_neg]
        exact hq)
      rw [← hdigits, ← hpower] at hdiv
      exact (congrArg (fun u => Float.ofModel (.pack u)) hdiv).trans (ofModel_pack hx rfl)
    | false =>
      have hmul := @mul_of_surrounds m m₁ m₂ e e₁ e₂ h₁ h₂ hf
        (hfull₁.trans (Nat.le_mul_of_pos_right _ h₂)) (by
          rw [hvalue₁, hvalue₂, ← zpow_natCast]
          exact hq)
      rw [← hdigits, ← hpower] at hmul
      exact (congrArg (fun u => Float.ofModel (.pack u)) hmul).trans (ofModel_pack hx rfl)
  case isFalse =>
    have hexponent : (if fraction = true then Int.negOfNat k else Int.ofNat k) =
        if fraction then -(k : Int) else k := by
      cases fraction
      · rfl
      · exact Int.negOfNat_eq
    simp only [hexponent]
    show Float.ofModel (.pack (UnpackedFloat.ofScientific .binary64 n _)) = x
    rw [ofScientific_of_surrounds hf hq]
    exact ofModel_pack hx rfl

/-- A decimal around a float is read as that float. -/
theorem floatOf_of_surrounds {n : Nat} {k : Int} (hq : Surrounds m e (n * 10 ^ k)) :
    floatOf n k = x := by
  unfold floatOf
  by_cases hk : 0 ≤ k
  · rw [if_pos hk]
    apply ofScientific_eq hx
    rw [if_neg Bool.false_ne_true, Int.toNat_of_nonneg hk]
    exact hq
  · rw [if_neg hk]
    apply ofScientific_eq hx
    rw [if_pos rfl, Int.toNat_of_nonneg (by omega), Int.neg_neg]
    exact hq

end Reading

end Quarry.Number
