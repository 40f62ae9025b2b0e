import Mathlib.Data.List.TakeWhile
import Quarry.Number.Reading

/-!
# Reading numbers

What texts are read as: an integer of 64 bits is read exactly from what spells one, and digits around a
point are a float without sign or power of ten.
-/

namespace Quarry.Number

/-! ## 1. Integers -/

-- Digits are read back, with zeros in front or without.
theorem ofDigits_toDigits (zeros n : Nat) :
    ofDigits (List.replicate zeros '0' ++ Nat.toDigits 10 n) = n := by
  show Nat.ofDigitChars 10 (List.replicate zeros '0' ++ Nat.toDigits 10 n) 0 = n
  rw [Nat.ofDigitChars_append, Nat.ofDigitChars_replicate_zero, Nat.mul_zero,
    Nat.ofDigitChars_ten_toDigits]

theorem int64?_toInt (n : Int64) : int64? n.toInt = some n := by
  rw [int64?, if_pos ⟨n.minValue_le_toInt, n.toInt_le⟩, Int64.ofInt_toInt]

theorem int64?_eq_some {i : Int} {n : Int64} : int64? i = some n ↔ n.toInt = i := by
  constructor
  · intro h
    unfold int64? at h
    split at h
    case isTrue hrange =>
      cases h
      exact Int64.toInt_ofInt_of_le hrange.1 (Int.lt_add_one_of_le hrange.2)
    case isFalse => cases h
  · rintro rfl
    exact int64?_toInt n

/-- The integer has room in 64 bits. -/
def Fits64 (i : Int) : Prop := -9223372036854775808 ≤ i ∧ i ≤ 9223372036854775807

instance (i : Int) : Decidable (Fits64 i) := inferInstanceAs (Decidable (_ ∧ _))

theorem int64?_eq_none {i : Int} : int64? i = none ↔ ¬Fits64 i := by
  have hrange : (Int64.minValue.toInt ≤ i ∧ i ≤ Int64.maxValue.toInt) ↔ Fits64 i := by
    simp only [Fits64, Int64.toInt_minValue, Int64.toInt_maxValue]
    omega
  rw [int64?, ← hrange]
  simp

/-- The characters spell an integer: digits, with a sign in front or none. -/
inductive Spells : List Char → Int → Prop where
  | unsigned {ds : List Char} (hne : ds ≠ []) (hdigits : ∀ c ∈ ds, c.isDigit) :
      Spells ds (Nat.ofDigitChars 10 ds 0)
  | plus {ds : List Char} (hne : ds ≠ []) (hdigits : ∀ c ∈ ds, c.isDigit) :
      Spells ('+' :: ds) (Nat.ofDigitChars 10 ds 0)
  | minus {ds : List Char} (hne : ds ≠ []) (hdigits : ∀ c ∈ ds, c.isDigit) :
      Spells ('-' :: ds) (-(Nat.ofDigitChars 10 ds 0 : Int))

theorem splitSign_of_isDigit {c : Char} (hc : c.isDigit) (cs : List Char) :
    splitSign (c :: cs) = (false, c :: cs) := by
  have hminus : c ≠ '-' := by
    rintro rfl
    exact absurd hc (by decide)
  have hplus : c ≠ '+' := by
    rintro rfl
    exact absurd hc (by decide)
  simp [splitSign, hminus, hplus]

-- What is read behind the sign.
theorem readInt64?_of_splitSign {cs ds : List Char} {negative : Bool} {n : Int64}
    (h : splitSign cs = (negative, ds)) : readInt64? cs = some n ↔
      (ds ≠ [] ∧ ∀ c ∈ ds, c.isDigit) ∧ n.toInt =
        if negative then -(Nat.ofDigitChars 10 ds 0 : Int) else Nat.ofDigitChars 10 ds 0 := by
  have htest : (ds.isEmpty || !ds.all Char.isDigit) = true ↔ ¬(ds ≠ [] ∧ ∀ c ∈ ds, c.isDigit) := by
    simp [or_iff_not_imp_left]
  rw [← int64?_eq_some, readInt64?, h]
  by_cases hds : ds ≠ [] ∧ ∀ c ∈ ds, c.isDigit
  · rw [and_iff_right hds]
    simp only [if_neg fun hd => htest.mp hd hds]
    rfl
  · simp only [if_pos (htest.mpr hds), hds, false_and]
    simp

theorem spells_of_splitSign {cs ds : List Char} {negative : Bool}
    (h : splitSign cs = (negative, ds)) (hne : ds ≠ []) (hdigits : ∀ c ∈ ds, c.isDigit) :
    Spells cs (if negative then -(Nat.ofDigitChars 10 ds 0 : Int) else Nat.ofDigitChars 10 ds 0) := by
  unfold splitSign at h
  split at h <;> cases h
  · exact .minus hne hdigits
  · exact .plus hne hdigits
  · exact .unsigned hne hdigits

/-- An integer of 64 bits is read from what spells it. -/
theorem readInt64?_eq_some {cs : List Char} {n : Int64} :
    readInt64? cs = some n ↔ Spells cs n.toInt := by
  constructor
  · intro h
    cases hsign : splitSign cs with
    | mk negative ds =>
      have ⟨⟨hne, hdigits⟩, hn⟩ := (readInt64?_of_splitSign hsign).mp h
      rw [hn]
      exact spells_of_splitSign hsign hne hdigits
  · intro h
    generalize hi : n.toInt = i at h
    cases h with
    | unsigned hne hdigits =>
      cases cs with
      | nil => exact absurd rfl hne
      | cons c cs =>
        have hsign := splitSign_of_isDigit (hdigits c List.mem_cons_self) cs
        exact (readInt64?_of_splitSign hsign).mpr ⟨⟨hne, hdigits⟩, hi⟩
    | @plus ds hne hdigits =>
      exact (@readInt64?_of_splitSign _ ds false n rfl).mpr ⟨⟨hne, hdigits⟩, hi⟩
    | @minus ds hne hdigits =>
      exact (@readInt64?_of_splitSign _ ds true n rfl).mpr ⟨⟨hne, hdigits⟩, hi⟩

/-! ## 2. Floats -/

theorem toLower_of_isDigit {c : Char} (hc : c.isDigit) : c.toLower = c := by
  have hupper : ¬(c.val ≥ 'A'.val ∧ c.val ≤ 'Z'.val) := by
    simp only [Char.isDigit, Bool.and_eq_true, decide_eq_true_eq] at hc
    intro h
    exact absurd (UInt32.le_trans h.1 hc.2) (by decide)
  exact dif_neg hupper

-- What starts with a digit has no sign and is no word.
theorem readFloat?_of_isDigit {c : Char} (hc : c.isDigit) (cs : List Char) :
    readFloat? (c :: cs) = readMagnitude? (c :: cs) := by
  have hsign := splitSign_of_isDigit hc cs
  have hword {word : String} (h : String.ofList ((c :: cs).map Char.toLower) = word) :
      word.toList.head? = some c := by
    rw [← h, String.toList_ofList, List.map_cons, toLower_of_isDigit hc, List.head?_cons]
  rw [readFloat?, hsign]
  simp only
  split
  case h_1 h | h_2 h | h_3 h =>
    cases hword h
    exact absurd hc (by decide)
  case h_4 => exact Option.map_id'

section Decimals

variable {whole fraction : List Char} (hdigits : ∀ c ∈ whole ++ fraction, c.isDigit)

include hdigits

-- Where the digits in front of the point end, and those behind it.
theorem takeWhile_decimal : (whole ++ '.' :: fraction).takeWhile Char.isDigit = whole ∧
    (whole ++ '.' :: fraction).dropWhile Char.isDigit = '.' :: fraction ∧
      fraction.takeWhile Char.isDigit = fraction ∧ fraction.dropWhile Char.isDigit = [] := by
  have hw : ∀ c ∈ whole, c.isDigit := fun c hc => hdigits c (List.mem_append_left _ hc)
  have hf : ∀ c ∈ fraction, c.isDigit := fun c hc => hdigits c (List.mem_append_right _ hc)
  refine ⟨?_, ?_, List.takeWhile_eq_self_iff.mpr hf, List.dropWhile_eq_nil_iff.mpr hf⟩
  · rw [List.takeWhile_append_of_pos hw]
    exact List.append_nil whole
  · rw [List.dropWhile_append_of_pos hw]
    rfl

theorem readFloat?_decimal (hwhole : whole ≠ []) : readFloat? (whole ++ '.' :: fraction) =
    some (floatOf (ofDigits (whole ++ fraction)) (-(fraction.length : Int))) := by
  obtain ⟨htake, hdrop, hftake, hfdrop⟩ := takeWhile_decimal hdigits
  have hmagnitude : readMagnitude? (whole ++ '.' :: fraction) =
      some (floatOf (ofDigits (whole ++ fraction)) (-(fraction.length : Int))) := by
    have hexponent : (0 : Int) - fraction.length = -(fraction.length : Int) := by omega
    simp only [readMagnitude?, htake, hdrop, hftake, hfdrop, readExponent?, Option.map_some,
      hexponent]
    simp [hwhole]
  cases whole with
  | nil => exact absurd rfl hwhole
  | cons c cs =>
    rw [← hmagnitude]
    exact readFloat?_of_isDigit (hdigits c List.mem_cons_self) _

end Decimals

end Quarry.Number
