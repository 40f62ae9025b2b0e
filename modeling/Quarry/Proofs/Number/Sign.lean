import Mathlib
import Quarry.Number.Reading

/-!
# Signs of floats

A float that is a number or an infinity has a sign, and negation changes nothing else. What is read from
digits has no sign in front. The lemmas on packed floats are those of Batteries, which come with the whole of
Mathlib only.
-/

namespace Quarry.Number

open Float.Model (Format UnpackedFloat)
open Float.Model.UnpackedFloat (Sign packComponents isNaNBits)

/-! ## 1. Fields -/

/-- The bits of a float with a sign, an exponent and a mantissa. -/
def fields (s : Sign) (e : BitVec 11) (m : BitVec 52) : BitVec 64 := packComponents .binary64 s e m

/-- The fields are those of no number. -/
def IsNaNFields (e : BitVec 11) (m : BitVec 52) : Prop := e = -1#11 ∧ m ≠ 0#52

theorem exists_fields (b : BitVec 64) : ∃ s e m, b = fields s e m :=
  ⟨_, _, _, (@UnpackedFloat.packComponents_unpackSign_unpackExponent_unpackMantissa .binary64 b).symm⟩

theorem isNaNBits_fields {s : Sign} {e : BitVec 11} {m : BitVec 52} :
    @isNaNBits .binary64 (fields s e m) = true ↔ IsNaNFields e m := by
  simp [isNaNBits, fields, IsNaNFields]

theorem msb_fields (s : Sign) (e : BitVec 11) (m : BitVec 52) :
    (fields s e m).msb = true ↔ s = .negative := by
  have happend : (fields s e m).msb = s.toBitVec.msb := by
    show (s.toBitVec ++ e ++ m).msb = _
    rw [BitVec.msb_append, BitVec.msb_append]
    rfl
  rw [happend]
  cases s with
  | negative => exact ⟨fun _ => rfl, fun _ => rfl⟩
  | positive => exact ⟨nofun, nofun⟩

/-- What the fields of a float stand for. -/
inductive Denotes (s : Sign) : BitVec 11 → BitVec 52 → UnpackedFloat → Prop where
  | notANumber {m : BitVec 52} (hm : m ≠ 0#52) : Denotes s (-1#11) m .notANumber
  | infinity : Denotes s (-1#11) 0#52 (.infinity s)
  | zero : Denotes s 0#11 0#52 (.zero s)
  | subnormal {m : BitVec 52} (hm : 0 < m.toNat) : Denotes s 0#11 m (.finite s m.toNat (-1074) hm)
  | normal {e : BitVec 11} {m : BitVec 52} (h0 : e ≠ 0#11) (h1 : e ≠ -1#11)
      (hm : 0 < (1#1 ++ m).toNat) :
      Denotes s e m (.finite s (1#1 ++ m).toNat (e.toNat - 1075) hm)

theorem denotes_unpack (s : Sign) (e : BitVec 11) (m : BitVec 52) :
    Denotes s e m (UnpackedFloat.unpack .binary64 (fields s e m)) := by
  unfold UnpackedFloat.unpack
  simp only [fields, UnpackedFloat.unpackExponent_packComponents,
    UnpackedFloat.unpackMantissa_packComponents, UnpackedFloat.unpackSign_packComponents,
    Sign.ofBitVec_toBitVec]
  split
  case isTrue h =>
    subst h
    split
    case isTrue h =>
      subst h
      exact .infinity
    case isFalse h => exact .notANumber h
  case isFalse h =>
    split
    case isTrue h =>
      subst h
      split
      case isTrue h =>
        subst h
        exact .zero
      case isFalse h => exact .subnormal _
    case isFalse h0 => exact .normal h0 h _

theorem Denotes.unique {s : Sign} {e : BitVec 11} {m : BitVec 52} {u v : UnpackedFloat}
    (h : Denotes s e m u) (h' : Denotes s e m v) : u = v := by
  cases h <;> cases h' <;> first | rfl | contradiction

theorem Denotes.neg {s : Sign} {e : BitVec 11} {m : BitVec 52} {u : UnpackedFloat}
    (h : Denotes s e m u) : Denotes (-s) e m u.neg := by
  cases h with
  | notANumber hm => exact .notANumber hm
  | infinity => exact .infinity
  | zero => exact .zero
  | subnormal hm => exact .subnormal hm
  | normal h0 h1 hm => exact .normal h0 h1 hm

-- Negation turns the sign of a number and keeps its other fields.
theorem pack_neg_unpack {s : Sign} {e : BitVec 11} {m : BitVec 52} (hnan : ¬IsNaNFields e m) :
    UnpackedFloat.pack .binary64 (UnpackedFloat.unpack .binary64 (fields s e m)).neg =
      fields (-s) e m := by
  have hneg := (denotes_unpack s e m).neg.unique (denotes_unpack (-s) e m)
  rw [hneg, UnpackedFloat.pack_unpack, if_neg (mt isNaNBits_fields.mp hnan)]

-- Only the fields of no number stand for none.
theorem Denotes.isNaN {s : Sign} {e : BitVec 11} {m : BitVec 52} {u : UnpackedFloat}
    (h : Denotes s e m u) : u.isNaN = true ↔ IsNaNFields e m := by
  cases h with
  | notANumber hm => exact ⟨fun _ => ⟨rfl, hm⟩, fun _ => rfl⟩
  | infinity => exact ⟨nofun, fun h => absurd rfl h.2⟩
  | zero | subnormal hm => exact ⟨nofun, fun h => absurd h.1 (by decide)⟩
  | normal h0 h1 hm => exact ⟨nofun, fun h => absurd h.1 h1⟩

/-! ## 2. Signs -/

/-- Whether the sign bit of a float is set. -/
def negative (x : Float) : Bool := x.toBits.toBitVec.msb

/-- The float is a number or an infinity, and has the sign. -/
def HasSign (s : Sign) (x : Float) : Prop :=
  ∃ e m, x.toBits.toBitVec = fields s e m ∧ ¬IsNaNFields e m

theorem denotes_toModel {s : Sign} {e : BitVec 11} {m : BitVec 52} {x : Float}
    (h : x.toBits.toBitVec = fields s e m) : Denotes s e m x.toModel.unpack := by
  show Denotes s e m (UnpackedFloat.unpack .binary64 x.toBits.toBitVec)
  rw [h]
  exact denotes_unpack s e m

theorem HasSign.isNaN {s : Sign} {x : Float} (h : HasSign s x) : x.isNaN = false := by
  obtain ⟨e, m, hbits, hnan⟩ := h
  exact Bool.eq_false_iff.mpr fun h => hnan ((denotes_toModel hbits).isNaN.mp h)

theorem HasSign.negative {s : Sign} {x : Float} (h : HasSign s x) :
    negative x = true ↔ s = .negative := by
  obtain ⟨e, m, hbits, _⟩ := h
  rw [Number.negative, hbits, msb_fields]

theorem exists_sign {x : Float} (h : x.isNaN = false) : ∃ s, HasSign s x := by
  obtain ⟨s, e, m, hbits⟩ := exists_fields x.toBits.toBitVec
  refine ⟨s, e, m, hbits, fun hnan => ?_⟩
  exact Bool.eq_false_iff.mp h ((denotes_toModel hbits).isNaN.mpr hnan)

theorem toBits_neg {s : Sign} {e : BitVec 11} {m : BitVec 52} {x : Float}
    (h : x.toBits.toBitVec = fields s e m) (hnan : ¬IsNaNFields e m) :
    (-x).toBits.toBitVec = fields (-s) e m := by
  show UnpackedFloat.pack .binary64 (UnpackedFloat.unpack .binary64 x.toBits.toBitVec).neg = _
  rw [h, pack_neg_unpack hnan]

theorem HasSign.neg {s : Sign} {x : Float} (h : HasSign s x) : HasSign (-s) (-x) := by
  obtain ⟨e, m, hbits, hnan⟩ := h
  exact ⟨e, m, toBits_neg hbits hnan, hnan⟩

theorem float_neg_neg {x : Float} (h : x.isNaN = false) : - -x = x := by
  obtain ⟨s, e, m, hbits, hnan⟩ := exists_sign h
  have hsign : - -s = s := by cases s <;> rfl
  refine Float.toBits_inj.mp (UInt64.toBitVec_inj.mp ?_)
  rw [toBits_neg (toBits_neg hbits hnan) hnan, hsign, hbits]

/-! ## 3. Digits -/

/-- Neither a sign in front nor no number. -/
inductive IsMagnitude : UnpackedFloat → Prop where
  | infinity : IsMagnitude (.infinity .positive)
  | zero : IsMagnitude (.zero .positive)
  | finite {m : Nat} {e : Int} (hm : 0 < m) : IsMagnitude (.finite .positive m e hm)

theorem Denotes.isMagnitude {e : BitVec 11} {m : BitVec 52} {u : UnpackedFloat}
    (h : Denotes .positive e m u) (hnan : ¬IsNaNFields e m) : IsMagnitude u := by
  cases h with
  | notANumber hm => exact absurd ⟨rfl, hm⟩ hnan
  | infinity => exact .infinity
  | zero => exact .zero
  | subnormal hm | normal _ _ hm => exact .finite hm

theorem IsMagnitude.hasSign {u : UnpackedFloat} (h : IsMagnitude u) :
    HasSign .positive (.ofModel (.pack u)) := by
  show ∃ e m, UnpackedFloat.pack .binary64 u = fields .positive e m ∧ ¬IsNaNFields e m
  cases h with
  | infinity => exact ⟨_, _, rfl, fun h => h.2 rfl⟩
  | zero => exact ⟨_, _, rfl, fun h => absurd h.1 (by decide)⟩
  | @finite m e hm =>
    unfold UnpackedFloat.pack
    simp only
    split
    case isTrue => exact ⟨_, _, rfl, fun h => h.2 rfl⟩
    case isFalse hexponent =>
      split
      case isTrue =>
        refine ⟨_, _, rfl, fun h => ?_⟩
        have hfield := congrArg BitVec.toNat h.1
        simp only [BitVec.toNat_ofNat] at hfield
        simp at hfield hexponent
        omega
      case isFalse => exact ⟨_, _, rfl, fun h => absurd h.1 (by decide)⟩

theorem isMagnitude_roundWithAccuracy (f : Format) (m : Nat) (e : Int) (a : UnpackedFloat.Accuracy) :
    IsMagnitude (UnpackedFloat.roundWithAccuracy f .positive m e a) := by
  unfold UnpackedFloat.roundWithAccuracy
  simp only
  split
  · exact .zero
  · exact .finite _

theorem isMagnitude_ofNat (f : Format) (n : Nat) : IsMagnitude (UnpackedFloat.ofNat f n) := by
  unfold UnpackedFloat.ofNat UnpackedFloat.ofInt UnpackedFloat.normalize
  split
  case h_1 h =>
    have hneg : (n : Int) < 0 := Std.compare_eq_lt.mp h
    exact absurd hneg (Int.not_lt.mpr (Int.natCast_nonneg n))
  case h_2 => exact .zero
  case h_3 => exact isMagnitude_roundWithAccuracy _ _ _ _

theorem IsMagnitude.mul {f : Format} {u : UnpackedFloat} (h : IsMagnitude u) {m : Nat} {e : Int}
    (hm : 0 < m) : IsMagnitude (UnpackedFloat.mul f u (.finite .positive m e hm)) := by
  cases h with
  | infinity => exact .infinity
  | zero => exact .zero
  | finite => exact isMagnitude_roundWithAccuracy _ _ _ _

theorem IsMagnitude.div {f : Format} {u : UnpackedFloat} (h : IsMagnitude u) {m : Nat} {e : Int}
    (hm : 0 < m) : IsMagnitude (UnpackedFloat.div f u (.finite .positive m e hm)) := by
  cases h with
  | infinity => exact .infinity
  | zero => exact .zero
  | finite => exact isMagnitude_roundWithAccuracy _ _ _ _

theorem isMagnitude_ofScientific (f : Format) (m : Nat) (e : Int) :
    IsMagnitude (UnpackedFloat.ofScientific f m e) := by
  unfold UnpackedFloat.ofScientific
  split
  · exact .zero
  split
  · exact .infinity
  split
  · exact .zero
  split
  · exact (IsMagnitude.finite _).mul _
  · exact (IsMagnitude.finite _).div _

/-- Whether a float is a number above zero. -/
def isPositive : UnpackedFloat → Bool
  | .finite .positive .. => true
  | _ => false

-- The powers of ten that are kept ready are such numbers.
theorem isPositive_powersOfTen : ∀ i : Fin Float.exactlyRepresentablePowersOfTen.size,
    isPositive Float.exactlyRepresentablePowersOfTen[i].toModel.unpack := by
  decide +kernel

theorem exists_of_isPositive {u : UnpackedFloat} (h : isPositive u) :
    ∃ m e hm, u = .finite .positive m e hm := by
  unfold isPositive at h
  split at h
  · exact ⟨_, _, _, rfl⟩
  · cases h

theorem hasSign_ofScientific (m : Nat) (fraction : Bool) (e : Nat) :
    HasSign .positive (Float.ofScientific m fraction e) := by
  unfold Float.ofScientific
  split
  case isTrue h =>
    -- A whole number times or over a power of ten.
    have he : e < Float.exactlyRepresentablePowersOfTen.size := Nat.lt_succ_of_le h.2
    obtain ⟨n, exponent, hn, hpower⟩ := exists_of_isPositive (isPositive_powersOfTen ⟨e, he⟩)
    have hwhole : IsMagnitude m.toUInt64.toFloat.toModel.unpack := by
      obtain ⟨e, m, hbits, hnan⟩ := (isMagnitude_ofNat .binary64 m.toUInt64.toNat).hasSign
      exact (denotes_toModel hbits).isMagnitude hnan
    cases fraction with
    | true =>
      have hdiv := hwhole.div hn (f := .binary64) (e := exponent)
      rw [← hpower] at hdiv
      exact hdiv.hasSign
    | false =>
      have hmul := hwhole.mul hn (f := .binary64) (e := exponent)
      rw [← hpower] at hmul
      exact hmul.hasSign
  case isFalse => exact (isMagnitude_ofScientific _ _ _).hasSign

theorem hasSign_floatOf (digits : Nat) (exponent : Int) :
    HasSign .positive (floatOf digits exponent) := by
  unfold floatOf
  split <;> exact hasSign_ofScientific _ _ _

end Quarry.Number
