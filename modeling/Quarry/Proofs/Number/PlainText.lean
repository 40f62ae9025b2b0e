import Mathlib.Algebra.Group.Nat.Defs
import Mathlib.Data.List.TakeWhile
import Quarry.Number.Layout
import Quarry.Proofs.Number.Reading
import Quarry.Proofs.Text.Blank

/-!
# Texts of floats

A float in a cell is written as digits, with a point among them and a sign in front or without. What is read
from such a text is the decimal that its digits and the place of its point stand for.
-/

namespace Quarry.Number

/-- The characters are digits, with a point among them or none. They spell the digits of the number and how
many of them stand behind the point. -/
inductive SpellsDecimal : List Char → Nat → Nat → Prop where
  | whole {ds : List Char} (hne : ds ≠ []) (hdigits : ∀ c ∈ ds, c.isDigit) :
      SpellsDecimal ds (ofDigits ds) 0
  | point {ds fs : List Char} (hne : ds ≠ []) (hdigits : ∀ c ∈ ds ++ fs, c.isDigit) :
      SpellsDecimal (ds ++ '.' :: fs) (ofDigits (ds ++ fs)) fs.length

/-! ## 1. Reading -/

theorem ofDigits_append_zeros (ds : List Char) (zeros : Nat) :
    ofDigits (ds ++ List.replicate zeros '0') = ofDigits ds * 10 ^ zeros := by
  show Nat.ofDigitChars 10 (ds ++ List.replicate zeros '0') 0 = Nat.ofDigitChars 10 ds 0 * 10 ^ zeros
  rw [Nat.ofDigitChars_append, Nat.ofDigitChars_replicate_zero, Nat.mul_comm]

namespace SpellsDecimal

variable {cs : List Char} {digits places : Nat}

theorem exists_cons (h : SpellsDecimal cs digits places) : ∃ c ds, cs = c :: ds ∧ c.isDigit := by
  cases h with
  | whole hne hdigits =>
    have ⟨c, ds, heq⟩ := List.exists_cons_of_ne_nil hne
    exact ⟨c, ds, heq, hdigits c (heq ▸ List.mem_cons_self)⟩
  | point hne hdigits =>
    have ⟨c, ds, heq⟩ := List.exists_cons_of_ne_nil hne
    exact ⟨c, ds ++ _, by rw [heq]; rfl,
      hdigits c (List.mem_append_left _ (heq ▸ List.mem_cons_self))⟩

theorem not_isBlank (h : SpellsDecimal cs digits places) : ∀ c ∈ cs, Text.isBlank c = false := by
  intro c hc
  cases h with
  | whole _ hdigits => exact Text.not_isBlank_of_isDigit (hdigits c hc)
  | point _ hdigits =>
    rw [List.mem_append, List.mem_cons] at hc
    rcases hc with hc | rfl | hc
    · exact Text.not_isBlank_of_isDigit (hdigits c (List.mem_append_left _ hc))
    · decide
    · exact Text.not_isBlank_of_isDigit (hdigits c (List.mem_append_right _ hc))

theorem readMagnitude?_eq (h : SpellsDecimal cs digits places) :
    readMagnitude? cs = some (floatOf digits (-(places : Int))) := by
  cases h with
  | whole hne hdigits =>
    have htake := List.takeWhile_eq_self_iff.mpr hdigits
    have hdrop := List.dropWhile_eq_nil_iff.mpr hdigits
    simp [readMagnitude?, htake, hdrop, hne, readExponent?]
  | @point ds fs hne hdigits =>
    rcases takeWhile_decimal hdigits with ⟨htake, hdrop, hftake, hfdrop⟩
    have hexponent : (0 : Int) - fs.length = -(fs.length : Int) := by omega
    simp only [readMagnitude?, htake, hdrop, hftake, hfdrop, readExponent?, Option.map_some,
      hexponent]
    simp [hne]

-- With a sign in front the text is still none of the words.
theorem readFloat?_minus (h : SpellsDecimal cs digits places) :
    readFloat? ('-' :: cs) = some (-floatOf digits (-(places : Int))) := by
  have ⟨c, ds, hcs, hc⟩ := h.exists_cons
  have hread := h.readMagnitude?_eq
  rw [hcs] at hread ⊢
  have hword {word : String} (h : String.ofList ((c :: ds).map Char.toLower) = word) :
      word.toList.head? = some c := by
    rw [← h, String.toList_ofList, List.map_cons, toLower_of_isDigit hc, List.head?_cons]
  rw [readFloat?, splitSign]
  simp only
  split
  case h_1 h | h_2 h | h_3 h =>
    cases hword h
    exact absurd hc (by decide)
  case h_4 =>
    rw [hread]
    rfl

theorem readFloat?_eq (h : SpellsDecimal cs digits places) :
    readFloat? cs = some (floatOf digits (-(places : Int))) := by
  have ⟨c, ds, hcs, hc⟩ := h.exists_cons
  rw [← h.readMagnitude?_eq, hcs]
  exact readFloat?_of_isDigit hc ds

end SpellsDecimal

/-! ## 2. Writing -/

section Layout

variable {ds : List Char} (hne : ds ≠ []) (hdigits : ∀ c ∈ ds, c.isDigit)

include hdigits

theorem isDigit_zeros_append {zeros : Nat} : ∀ c ∈ List.replicate zeros '0' ++ ds, c.isDigit := by
  intro c hc
  rcases List.mem_append.mp hc with hc | hc
  · rw [List.eq_of_mem_replicate hc]
    decide
  · exact hdigits c hc

-- The point stands before all digits, with zeros in between.
theorem spells_behind_zeros (zeros : Nat) : SpellsDecimal ('0' :: '.' :: (List.replicate zeros '0' ++ ds))
    (ofDigits (List.replicate (zeros + 1) '0' ++ ds)) (zeros + ds.length) := by
  have hspells : SpellsDecimal (['0'] ++ '.' :: (List.replicate zeros '0' ++ ds)) _ _ :=
    .point (List.cons_ne_nil _ _) (@isDigit_zeros_append _ hdigits (zeros + 1))
  rw [List.length_append, List.length_replicate] at hspells
  exact hspells

include hne

-- Behind all digits, zeros fill the gap to the point.
theorem spells_before_zeros (zeros : Nat) :
    SpellsDecimal (ds ++ List.replicate zeros '0') (ofDigits ds * 10 ^ zeros) 0 := by
  rw [← ofDigits_append_zeros]
  refine .whole (List.append_ne_nil_of_left_ne_nil hne _) fun c hc => ?_
  rcases List.mem_append.mp hc with hc | hc
  · exact hdigits c hc
  · rw [List.eq_of_mem_replicate hc]
    decide

-- The point stands among the digits.
theorem spells_around_point {n : Nat} (hn : 0 < n) :
    SpellsDecimal (ds.take n ++ '.' :: ds.drop n) (ofDigits ds) (ds.length - n) := by
  have htake : ds.take n ≠ [] := by
    rw [ne_eq, List.take_eq_nil_iff, not_or]
    exact ⟨Nat.ne_of_gt hn, hne⟩
  have hspells : SpellsDecimal (ds.take n ++ '.' :: ds.drop n) _ _ :=
    .point htake (by rw [List.take_append_drop]; exact hdigits)
  rw [List.take_append_drop, List.length_drop] at hspells
  exact hspells

end Layout

/-- Wherever the point stands, what is around it are the digits of the number. -/
theorem spells_positionalText (d : Digits) : SpellsDecimal (FloatLayout.positionalText "" d).toList
    (d.digits * 10 ^ d.exponent.toNat) (-d.exponent).toNat := by
  have hread := fun zeros => ofDigits_toDigits zeros d.digits
  have hne : Nat.toDigits 10 d.digits ≠ [] := Nat.toDigits_ne_nil
  have hdigits : ∀ c ∈ Nat.toDigits 10 d.digits, c.isDigit :=
    fun c hc => Nat.isDigit_of_mem_toDigits (by decide) (by decide) hc
  rw [FloatLayout.positionalText]
  generalize Nat.toDigits 10 d.digits = ds at *
  have hwhole : ofDigits ds = d.digits := hread 0
  by_cases hexponent : 0 ≤ d.exponent
  · have hspells := spells_before_zeros hne hdigits d.exponent.toNat
    rw [hwhole] at hspells
    rw [if_pos hexponent, String.toList_append, String.toList_ofList, show "".toList = [] from rfl,
      List.append_nil, show (-d.exponent).toNat = 0 by omega]
    exact hspells
  · have hpower : d.digits * 10 ^ d.exponent.toNat = d.digits := by
      rw [show d.exponent.toNat = 0 by omega, Nat.pow_zero, Nat.mul_one]
    rw [if_neg hexponent, hpower]
    by_cases hinside : 0 < (ds.length : Int) + d.exponent
    · generalize hn : ((ds.length : Int) + d.exponent).toNat = n
      have hspells := spells_around_point hne hdigits (show 0 < n by omega)
      rw [hwhole, show ds.length - n = (-d.exponent).toNat by omega] at hspells
      rw [if_pos hinside]
      simp only [String.toList_append, String.toList_ofList]
      rw [List.append_assoc]
      exact hspells
    · generalize hn : (-((ds.length : Int) + d.exponent)).toNat = zeros
      have hspells := spells_behind_zeros hdigits zeros
      rw [hread, show zeros + ds.length = (-d.exponent).toNat by omega] at hspells
      rw [if_neg hinside]
      simp only [String.toList_append, String.toList_ofList]
      exact hspells

end Quarry.Number
