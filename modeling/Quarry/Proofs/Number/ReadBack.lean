import Quarry.Proofs.Number.PlainText
import Quarry.Proofs.Number.Shortest

/-!
# Reading floats back

What is written for a float is read as the same float, whatever its sign and size.
-/

namespace Quarry.Number

open Float.Model (Format UnpackedFloat)
open Float.Model.UnpackedFloat (Sign)

/-! ## 1. Parts -/

def isNegative : Sign → Bool
  | .negative => true
  | .positive => false

/-- What a float stands for, read from its parts instead of its bits. -/
def Binary.ofUnpacked : UnpackedFloat → Binary
  | .notANumber => .nan
  | .infinity s => .infinite (isNegative s)
  | .zero s => .finite (isNegative s) 0 Binary.leastExponent
  | .finite s m e _ => .finite (isNegative s) m e

theorem toNat_fields (s : Sign) (e : BitVec 11) (m : BitVec 52) :
    (fields s e m).toNat = (isNegative s).toNat * 2 ^ 63 + e.toNat * 2 ^ 52 + m.toNat := by
  have he := e.isLt
  have hm := m.isLt
  have happend : fields s e m = s.toBitVec ++ e ++ m := rfl
  rw [happend, BitVec.toNat_append, BitVec.toNat_append, ← Nat.shiftLeft_add_eq_or_of_lt hm,
    ← Nat.shiftLeft_add_eq_or_of_lt he, Nat.shiftLeft_eq, Nat.shiftLeft_eq]
  cases s with
  | positive =>
    show (0 * 2 ^ 11 + e.toNat) * 2 ^ 52 + m.toNat = 0 * 2 ^ 63 + _ + _
    omega
  | negative =>
    show (1 * 2 ^ 11 + e.toNat) * 2 ^ 52 + m.toNat = 1 * 2 ^ 63 + _ + _
    omega

theorem ofFloat_eq_ofUnpacked (x : Float) : Binary.ofFloat x = .ofUnpacked x.toModel.unpack := by
  have ⟨s, e, m, hbits⟩ := exists_fields x.toBits.toBitVec
  have hdenotes := denotes_toModel hbits
  have hnat : x.toBits.toNat = (isNegative s).toNat * 2 ^ 63 + e.toNat * 2 ^ 52 + m.toNat := by
    rw [← toNat_fields, ← hbits]
    rfl
  have he := e.isLt
  have hm := m.isLt
  have hsign : (x.toBits.toNat / 2 ^ 63 == 1) = isNegative s := by
    rw [hnat]
    cases s <;> simp [isNegative] <;> omega
  have hfield : x.toBits.toNat / 2 ^ 52 % 2048 = e.toNat := by
    rw [hnat]
    cases s <;> simp [isNegative] <;> omega
  have hfraction : x.toBits.toNat % 2 ^ 52 = m.toNat := by
    rw [hnat]
    cases s <;> simp [isNegative] <;> omega
  have hparts : Binary.ofFloat x =
      if e.toNat = 2047 then if m.toNat = 0 then .infinite (isNegative s) else .nan
      else if e.toNat = 0 then .finite (isNegative s) m.toNat Binary.leastExponent
      else .finite (isNegative s) (2 ^ 52 + m.toNat) (Binary.leastExponent + (e.toNat - 1)) := by
    rw [← hsign, ← hfield, ← hfraction]
    rfl
  rw [hparts]
  generalize x.toModel.unpack = u at *
  cases hdenotes with
  | notANumber hm => exact if_neg fun h => hm (BitVec.eq_of_toNat_eq h)
  | infinity => rfl
  | zero => rfl
  | subnormal hm => rfl
  | normal h0 h1 hm =>
    have hones : e.toNat ≠ 2047 := fun h => h1 (BitVec.eq_of_toNat_eq h)
    have hzero : e.toNat ≠ 0 := fun h => h0 (BitVec.eq_of_toNat_eq h)
    rw [if_neg hones, if_neg hzero]
    show Binary.finite _ _ _ = .finite _ _ _
    rw [toNat_one_append]
    congr 1
    simp only [Binary.leastExponent]
    omega

/-! ## 2. Floats above zero and below -/

theorem unpack_neg {x : Float} {s : Sign} {m : Nat} {e : Int} {hm : 0 < m}
    (h : x.toModel.unpack = .finite s m e hm) : (-x).toModel.unpack = .finite (-s) m e hm := by
  show UnpackedFloat.unpack .binary64 (UnpackedFloat.pack .binary64 x.toModel.unpack.neg) = _
  rw [h]
  exact unpack_pack (isFloat_of_unpack h)

-- The digits that are read with their point are the decimal that was written.
theorem floatOf_digits {x : Float} {m : Nat} {e : Int} {hm : 0 < m}
    (h : x.toModel.unpack = .finite .positive m e hm) (tie : Tie) :
    floatOf ((Shortest.digits tie m e).digits * 10 ^ (Shortest.digits tie m e).exponent.toNat)
      (-((-(Shortest.digits tie m e).exponent).toNat : Int)) = x := by
  have hsurrounds := Shortest.surrounds_digits (isFloat_of_unpack h) tie
  generalize Shortest.digits tie m e = d at *
  have hvalue : d.value = (d.digits * 10 ^ d.exponent.toNat : Nat) *
      (10 : ℚ) ^ (-((-d.exponent).toNat : Int)) := by
    have hpower := zpow_mul_pow (show (10 : ℚ) ≠ 0 by norm_num) d.exponent
    have hpos : (0 : ℚ) < 10 ^ (-d.exponent).toNat := pow_pos (by norm_num) _
    push_cast
    rw [Digits.value, ← hpower, zpow_neg, zpow_natCast]
    field_simp
  rw [hvalue] at hsurrounds
  exact floatOf_of_surrounds h hsurrounds

/-! ## 3. Texts -/

theorem write_of_unpack {x : Float} {s : Sign} {m : Nat} {e : Int} {hm : 0 < m}
    (h : x.toModel.unpack = .finite s m e hm) : (FloatLayout.plain.write x).toList =
      (if isNegative s then ['-'] else []) ++
        (FloatLayout.positionalText "" (Shortest.digits .up m e)).toList := by
  rw [FloatLayout.write, ofFloat_eq_ofUnpacked, h, Binary.ofUnpacked]
  simp only [FloatLayout.magnitude, if_neg (Nat.ne_of_gt hm), String.toList_append]
  cases s <;> rfl

/-- What is written for a number or an infinity. -/
inductive Writes : List Char → Float → Prop where
  | infinity : Writes ['i', 'n', 'f'] infinity
  | minusInfinity : Writes ['-', 'i', 'n', 'f'] (-infinity)
  | decimal {cs : List Char} {digits places : Nat} (h : SpellsDecimal cs digits places) :
      Writes cs (floatOf digits (-(places : Int)))
  | minusDecimal {cs : List Char} {digits places : Nat} (h : SpellsDecimal cs digits places) :
      Writes ('-' :: cs) (-floatOf digits (-(places : Int)))

theorem write_of_isNaN {x : Float} (h : x.isNaN) : FloatLayout.plain.write x = "NaN" := by
  have hnan : x.toModel.unpack.isNaN = true := h
  rw [FloatLayout.write, ofFloat_eq_ofUnpacked]
  cases hu : x.toModel.unpack with
  | notANumber => rfl
  | infinity | zero | finite =>
    rw [hu] at hnan
    cases hnan

theorem writes_write {x : Float} (h : x.isNaN = false) : Writes (FloatLayout.plain.write x).toList x := by
  cases hu : x.toModel.unpack with
  | notANumber =>
    have hnan : x.toModel.unpack.isNaN = false := h
    rw [hu] at hnan
    cases hnan
  | infinity s =>
    have hx := ofModel_pack hu rfl
    rw [FloatLayout.write, ofFloat_eq_ofUnpacked, hu, Binary.ofUnpacked, ← hx]
    cases s with
    | positive => exact .infinity
    | negative => exact .minusInfinity
  | zero s =>
    have hx := ofModel_pack hu rfl
    have hspells : SpellsDecimal ['0'] 0 0 :=
      .whole (List.cons_ne_nil _ _) (List.forall_mem_singleton.mpr (by decide))
    rw [FloatLayout.write, ofFloat_eq_ofUnpacked, hu, Binary.ofUnpacked, ← hx]
    cases s with
    | positive => exact Writes.decimal hspells
    | negative => exact Writes.minusDecimal hspells
  | finite s m e hm =>
    have hspells := spells_positionalText (Shortest.digits .up m e)
    rw [write_of_unpack hu]
    cases s with
    | positive =>
      have hvalue := floatOf_digits hu .up
      exact hvalue ▸ Writes.decimal hspells
    | negative =>
      have hvalue := floatOf_digits (unpack_neg hu) .up
      rw [← float_neg_neg h]
      exact hvalue ▸ Writes.minusDecimal hspells

namespace Writes

variable {cs : List Char} {x : Float}

theorem readFloat?_eq (h : Writes cs x) : readFloat? cs = some x := by
  cases h with
  | infinity => rfl
  | minusInfinity => rfl
  | decimal h => exact h.readFloat?_eq
  | minusDecimal h => exact h.readFloat?_minus

theorem ne_nil (h : Writes cs x) : cs ≠ [] := by
  rintro rfl
  cases h with
  | decimal h =>
    have ⟨_, _, hcs, _⟩ := h.exists_cons
    cases hcs

theorem not_isBlank (h : Writes cs x) : ∀ c ∈ cs, Text.isBlank c = false := by
  cases h with
  | infinity | minusInfinity => simp [Text.isBlank]
  | decimal h => exact h.not_isBlank
  | minusDecimal h => exact List.forall_mem_cons.mpr ⟨by decide, h.not_isBlank⟩

end Writes

end Quarry.Number
