import Quarry.Proofs.Number.ReadBack
import Quarry.Proofs.Value.Exactness
import Quarry.Value.Convert

/-!
# Values as texts

A column of strings holds any value and gives it back. What is written for a value of a type is read as this
value wherever a text is converted to the type, and white space around it does not matter. Operators read the
integer in the text of an integer.
-/

namespace Quarry

/-! ## 1. Definitions -/

/-- What a value is written as. -/
inductive Value.Prints : Value → List Char → Prop where
  | null : Prints .null "NULL".toList
  | true : Prints (.boolean Bool.true) "true".toList
  | false : Prints (.boolean Bool.false) "false".toList
  | natural {n : Int64} {k : Nat} (h : n.toInt = k) : Prints (.integer n) (Nat.toDigits 10 k)
  | negative {n : Int64} {k : Nat} (h : n.toInt = -(k + 1)) :
      Prints (.integer n) ('-' :: Nat.toDigits 10 (k + 1))
  | number {x : Float} {cs : List Char} (h : Number.Writes cs x) : Prints (.float x) cs
  | notANumber {x : Float} (h : x.isNaN) : Prints (.float x) "NaN".toList
  | string (s : String) : Prints (.string s) s.toList

/-- White space around the text of a value. -/
def Value.padded (v : Value) (before after : List Char) : Value :=
  .string (String.ofList (before ++ v.text.toList ++ after))

/-- The text of a value stands for it. -/
structure Value.KeptAsText (v : Value) : Prop where
  stored : v.convert? .string = some (.string v.text)
  read : (Value.string v.text).convert? v.type = some v
  padded : v.type ≠ .string → ∀ before after : List Char, (∀ c ∈ before ++ after, Text.isBlank c) →
    (v.padded before after).convert? v.type = some v
  /-- Operators see the integer in its text, so that the two are equal. -/
  counted : ∀ n : Int64, v = .integer n →
    (Value.string v.text).numeric? = some (.integer n) ∧
      Operator.equal.apply (.string v.text) v = .ok (.boolean true) ∧
      Operator.equal.apply v (.string v.text) = .ok (.boolean true)

/-! ## 2. Texts of one type -/

theorem toList_toString (n : Nat) : (toString n).toList = Nat.toDigits 10 n := by
  rw [Nat.toString_eq_ofList_toDigits, String.toList_ofList]

theorem spells_toString (i : Int) : Number.Spells (toString i).toList i := by
  have hdigits (n : Nat) : ∀ c ∈ Nat.toDigits 10 n, c.isDigit :=
    fun c hc => Nat.isDigit_of_mem_toDigits (by decide) (by decide) hc
  cases i with
  | ofNat n =>
    have hspells := Number.Spells.unsigned Nat.toDigits_ne_nil (hdigits n)
    rw [Nat.ofDigitChars_ten_toDigits, ← toList_toString] at hspells
    exact hspells
  | negSucc n =>
    have hspells := Number.Spells.minus Nat.toDigits_ne_nil (hdigits (n + 1))
    rw [Nat.ofDigitChars_ten_toDigits, ← toList_toString] at hspells
    show Number.Spells ("-" ++ toString (n + 1)).toList _
    rw [String.toList_append]
    exact hspells

/-- Every value has its text. -/
theorem Value.prints_text (v : Value) : v.Prints v.text.toList := by
  cases v with
  | null => exact .null
  | boolean b =>
    cases b with
    | true => exact .true
    | false => exact .false
  | integer n =>
    show Prints (.integer n) (toString n.toInt).toList
    cases hn : n.toInt with
    | ofNat k =>
      rw [show toString (Int.ofNat k) = toString k from rfl, toList_toString]
      exact .natural hn
    | negSucc k =>
      rw [show toString (Int.negSucc k) = "-" ++ toString (k + 1) from rfl, String.toList_append,
        toList_toString]
      exact .negative (by omega)
  | float x =>
    by_cases hnan : x.isNaN
    · show Prints (.float x) (Number.FloatLayout.plain.write x).toList
      rw [Number.write_of_isNaN hnan]
      exact .notANumber hnan
    · exact .number (Number.writes_write (Bool.eq_false_iff.mpr hnan))
  | string s => exact .string s

theorem booleanOfText?_trimmed {s : String} {b : Bool} (h : Text.trim s = (Value.boolean b).text) :
    Value.booleanOfText? s = some b := by
  have hlower : (Value.boolean b).text.toLower = (Value.boolean b).text := by
    cases b <;> decide +kernel
  rw [Value.booleanOfText?, h, hlower]
  cases b <;> rfl

namespace Value

variable {v : Value} (hnull : v ≠ .null) (hnan : ∀ x, v = .float x → x.isNaN = false)

include hnull hnan

-- The text of a value that is no string has no white space.
theorem not_isBlank_text (hstring : v.type ≠ .string) :
    v.text.toList ≠ [] ∧ ∀ c ∈ v.text.toList, Text.isBlank c = false := by
  cases v with
  | null => exact absurd rfl hnull
  | string s => exact absurd rfl hstring
  | boolean b => cases b <;> simp [text, Text.isBlank]
  | integer n => exact not_isBlank_of_spells (spells_toString n.toInt)
  | float x =>
    have hwrites := Number.writes_write (hnan x rfl)
    exact ⟨hwrites.ne_nil, hwrites.not_isBlank⟩

/-- What a text is without the white space around it decides how it is read. -/
theorem convert?_of_trimChars (hstring : v.type ≠ .string) {s : String}
    (h : Text.trimChars s.toList = v.text.toList) : (Value.string s).convert? v.type = some v := by
  cases v with
  | null => exact absurd rfl hnull
  | string s => exact absurd rfl hstring
  | boolean b =>
    have htrim : Text.trim s = (Value.boolean b).text := by
      rw [Text.trim, h, String.ofList_toList]
    show (booleanOfText? s).map boolean = _
    rw [booleanOfText?_trimmed htrim]
    rfl
  | integer n =>
    show (Number.readInt64? (Text.trimChars s.toList)).map integer = _
    rw [h]
    exact congrArg (Option.map integer) (Number.readInt64?_eq_some.mpr (spells_toString n.toInt))
  | float x =>
    show (Number.readFloat? (Text.trimChars s.toList)).map float = _
    rw [h]
    exact congrArg (Option.map float) (Number.writes_write (hnan x rfl)).readFloat?_eq

end Value

theorem trimChars_padded {cs before after : List Char} (hblank : ∀ c ∈ before ++ after, Text.isBlank c)
    (hcs : cs ≠ [] ∧ ∀ c ∈ cs, Text.isBlank c = false) :
    Text.trimChars (before ++ cs ++ after) = cs :=
  Text.trimChars_append (fun c hc => hblank c (List.mem_append_left _ hc))
    (fun c hc => hblank c (List.mem_append_right _ hc)) hcs.2 hcs.1

-- A text that counts as an integer is equal to it from either side.
theorem equal_of_numeric? {s : String} {n : Int64}
    (h : (Value.string s).numeric? = some (.integer n)) :
    Operator.equal.apply (.string s) (.integer n) = .ok (.boolean true) ∧
      Operator.equal.apply (.integer n) (.string s) = .ok (.boolean true) := by
  have hnumber : (Value.integer n).numeric? = some (.integer n) := rfl
  have hsame : ((Numeric.integer n).compare? (.integer n) == some .eq) = true := by
    simp [Numeric.compare?, compareOfLessAndEq]
  simp [Operator.apply, Operator.isComparison, Operator.compare?, Value.looseEq?, h, hnumber, hsame]

/-! ## 3. All values -/

/-- A column of strings gives back every value but null and NaN. -/
theorem texts_keep_values (v : Value) (hnull : v ≠ .null)
    (hnan : ∀ x, v = .float x → x.isNaN = false) : v.KeptAsText := by
  have hpadded (hstring : v.type ≠ .string) (before after : List Char)
      (hblank : ∀ c ∈ before ++ after, Text.isBlank c) :
      (v.padded before after).convert? v.type = some v := by
    apply Value.convert?_of_trimChars hnull hnan hstring
    rw [String.toList_ofList]
    exact trimChars_padded hblank (Value.not_isBlank_text hnull hnan hstring)
  refine ⟨?_, ?_, hpadded, ?_⟩
  · cases v with
    | null => exact absurd rfl hnull
    | boolean b | integer n | float x | string s => rfl
  · by_cases hstring : v.type = .string
    · cases v with
      | string s => rfl
      | null | boolean b | integer n | float x => cases hstring
    · have hread := hpadded hstring [] [] nofun
      rw [Value.padded, List.nil_append, List.append_nil, String.ofList_toList] at hread
      exact hread
  · rintro n rfl
    have htext : (Value.string (Value.integer n).text).numeric? = some (.integer n) := by
      apply numeric?_eq_integer.mpr
      apply @Value.ReadsAs.text n _ [] _ [] _ nofun (spells_toString n.toInt)
      rw [List.nil_append, List.append_nil]
      rfl
    exact ⟨htext, equal_of_numeric? htext⟩

theorem texts_keep_values_whole_float :
    (Value.float 1e20).text = "100000000000000000000" ∧ (Value.float 1e20).KeptAsText := by
  refine ⟨by decide +kernel, texts_keep_values _ nofun fun x h => ?_⟩
  cases h
  decide +kernel

end Quarry
