import Quarry.Proofs.Number.Integers
import Quarry.Proofs.Number.Reading
import Quarry.Proofs.Text.Blank
import Quarry.Proofs.Value.Typing

/-!
# Exact integer arithmetic

On operands that are integers or spell them, `+`, `-`, `*` and `%` have the exact result if it has room in
64 bits. The one exception is the remainder of the least integer by minus one.
-/

namespace Quarry

/-! ## 1. Definitions -/

/-- The value is the integer, or a text that spells it between white space. -/
inductive Value.ReadsAs (n : Int64) : Value → Prop where
  | integer : ReadsAs n (.integer n)
  | text {s : String} {before cs after : List Char} (hs : s.toList = before ++ cs ++ after)
      (hblank : ∀ c ∈ before ++ after, Text.isBlank c) (hspells : Number.Spells cs n.toInt) :
      ReadsAs n (.string s)

/-- The exact result of an operator that gives integers for integers. The remainder is that of the division
that cuts toward zero. -/
inductive Operator.Exact (m n : Int) : Operator → Int → Prop where
  | add : Exact m n .add (m + n)
  | subtract : Exact m n .subtract (m - n)
  | multiply : Exact m n .multiply (m * n)
  | modulo : Exact m n .modulo (m.tmod n)

/-- The remainder of the least integer by minus one: the quotient that belongs to it has no room. -/
def Operator.QuotientOverflows (op : Operator) (m n : Int64) : Prop :=
  op = .modulo ∧ m = Int64.minValue ∧ n = -1

/-- What comes of an operator on two integers with an exact result: the result wherever it has room, and
otherwise an error that names the operands. -/
structure Operator.Computes (op : Operator) (m n : Int64) (exact : Int)
    (result : Except OperatorError Value) : Prop where
  divisionByZero : result = .error .divisionByZero ↔ op = .modulo ∧ n = 0
  overflow : (∃ left op' right, result = .error (.overflow left op' right)) ↔
    ¬Number.Fits64 exact ∨ op.QuotientOverflows m n
  operands : ∀ left op' right, result = .error (.overflow left op' right) →
    left = m ∧ op' = op ∧ right = n
  ok : ¬(op = .modulo ∧ n = 0) → Number.Fits64 exact → ¬op.QuotientOverflows m n →
    ∃ k : Int64, result = .ok (.integer k) ∧ k.toInt = exact

/-! ## 2. Operands -/

theorem not_isBlank_of_spells {cs : List Char} {i : Int} (h : Number.Spells cs i) :
    cs ≠ [] ∧ ∀ c ∈ cs, Text.isBlank c = false := by
  cases h with
  | unsigned hne hdigits => exact ⟨hne, fun c hc => Text.not_isBlank_of_isDigit (hdigits c hc)⟩
  | plus hne hdigits | minus hne hdigits =>
    refine ⟨List.cons_ne_nil _ _, fun c hc => ?_⟩
    rcases List.mem_cons.mp hc with rfl | hc
    · decide
    · exact Text.not_isBlank_of_isDigit (hdigits c hc)

/-- Operators see an integer exactly in what is one or spells one. -/
theorem numeric?_eq_integer {v : Value} {n : Int64} :
    v.numeric? = some (.integer n) ↔ v.ReadsAs n := by
  constructor
  · intro h
    cases v with
    | null | boolean b => cases h
    | float x => cases h
    | integer k =>
      cases h
      exact .integer
    | string s =>
      simp only [Value.numeric?, Numeric.ofText?] at h
      split at h
      case h_1 k hread =>
        cases h
        have ⟨before, after, hs, hblank⟩ := Text.exists_trimChars s.toList
        exact .text hs hblank (Number.readInt64?_eq_some.mp hread)
      case h_2 =>
        have ⟨x, _, hx⟩ := Option.map_eq_some_iff.mp h
        cases hx
  · intro h
    cases h with
    | integer => rfl
    | @text s before cs after hs hblank hspells =>
      have ⟨hne, hcs⟩ := not_isBlank_of_spells hspells
      have htrim : Text.trimChars s.toList = cs := by
        rw [hs]
        exact Text.trimChars_append (fun c hc => hblank c (List.mem_append_left _ hc))
          (fun c hc => hblank c (List.mem_append_right _ hc)) hcs hne
      simp only [Value.numeric?, Numeric.ofText?, htrim, Number.readInt64?_eq_some.mpr hspells]

/-! ## 3. Operators -/

variable {op : Operator} {m n : Int64} {r : Int}

theorem onInts?_of_exact (hr : op.Exact m.toInt n.toInt r) :
    op.onInts? m.toInt n.toInt = some r := by
  cases hr <;> rfl

theorem onInt64s_of_fits (hr : op.Exact m.toInt n.toInt r) (hfits : Number.Fits64 r)
    (hquotient : ¬op.QuotientOverflows m n) :
    ∃ k : Int64, op.onInt64s m n = .ok k ∧ k.toInt = r := by
  cases hk : Number.int64? r with
  | none => exact absurd hfits (Number.int64?_eq_none.mp hk)
  | some k =>
    refine ⟨k, ?_, Number.int64?_eq_some.mp hk⟩
    rw [Operator.QuotientOverflows] at hquotient
    simp only [Operator.onInt64s, if_neg hquotient, onInts?_of_exact hr, Option.bind_some, hk]

theorem onInt64s_of_overflow (hr : op.Exact m.toInt n.toInt r)
    (h : ¬Number.Fits64 r ∨ op.QuotientOverflows m n) :
    op.onInt64s m n = .error (.overflow m op n) := by
  by_cases hquotient : op = .modulo ∧ m = Int64.minValue ∧ n = -1
  · simp only [Operator.onInt64s, if_pos hquotient]
  · have hfits : ¬Number.Fits64 r := h.resolve_right hquotient
    simp only [Operator.onInt64s, if_neg hquotient, onInts?_of_exact hr, Option.bind_some,
      Number.int64?_eq_none.mpr hfits]

-- A divisor is tested for zero as a float, which makes no difference to integers.
theorem onNumerics_integers (hdivide : op ≠ .divide) :
    op.onNumerics (.integer m) (.integer n) =
      if op = .modulo ∧ n = 0 then .error .divisionByZero
      else (op.onInt64s m n).map .integer := by
  simp only [Operator.onNumerics, Numeric.toFloat, Number.ofInt64_beq_zero, hdivide, false_or,
    if_false, decide_eq_true_eq]

theorem apply_of_readsAs {a b : Value} (hr : op.Exact m.toInt n.toInt r) (ha : a.ReadsAs m)
    (hb : b.ReadsAs n) (hadd : op = .add → a = .integer m ∧ b = .integer n) :
    op.apply a b = op.onNumerics (.integer m) (.integer n) := by
  have hcompare : op.isComparison = false := by cases hr <;> rfl
  have hnull {v : Value} {k : Int64} (hv : v.ReadsAs k) : v ≠ .null := by
    cases hv <;> exact nofun
  have htext : op = .add → (∀ s, a ≠ .string s) ∧ ∀ s, b ≠ .string s := by
    intro h
    rw [(hadd h).1, (hadd h).2]
    exact ⟨nofun, nofun⟩
  rw [apply_eq_numbers hcompare (hnull ha) (hnull hb) htext, numeric?_eq_integer.mpr ha,
    numeric?_eq_integer.mpr hb]

-- By zero there is a remainder to speak of, which is no larger than the dividend.
theorem fits_of_zero (hr : op.Exact m.toInt n.toInt r) (hzero : op = .modulo ∧ n = 0) :
    Number.Fits64 r ∧ ¬op.QuotientOverflows m n := by
  constructor
  · have hlow := m.minValue_le_toInt
    have hhigh := m.toInt_le
    simp only [Int64.toInt_minValue, Int64.toInt_maxValue] at hlow hhigh
    rw [hzero.1, hzero.2] at hr
    cases hr
    rw [Int64.toInt_zero, Int.tmod_zero, Number.Fits64]
    omega
  · rintro ⟨_, _, hn⟩
    rw [hzero.2] at hn
    exact absurd hn (by decide)

/-- Integer arithmetic is exact. It fails only for lack of room, on a zero divisor, and on the remainder of
the least integer by minus one. -/
theorem apply_computes {a b : Value} (hr : op.Exact m.toInt n.toInt r) (ha : a.ReadsAs m)
    (hb : b.ReadsAs n) (hadd : op = .add → a = .integer m ∧ b = .integer n) :
    op.Computes m n r (op.apply a b) := by
  have hdivide : op ≠ .divide := by cases hr <;> exact nofun
  rw [apply_of_readsAs hr ha hb hadd, onNumerics_integers hdivide]
  by_cases hzero : op = .modulo ∧ n = 0
  · have hroom := fits_of_zero hr hzero
    rw [if_pos hzero]
    exact ⟨by simp [hzero], by simp [hroom], by simp, fun h => absurd hzero h⟩
  rw [if_neg hzero]
  by_cases hover : ¬Number.Fits64 r ∨ op.QuotientOverflows m n
  · rw [onInt64s_of_overflow hr hover, Except.map]
    refine ⟨by simp [hzero], by simp [hover], by simp [eq_comm], fun _ hfits hquotient => ?_⟩
    exact absurd hover (by simp [hfits, hquotient])
  · rw [not_or, not_not] at hover
    have ⟨k, hk, hexact⟩ := onInt64s_of_fits hr hover.1 hover.2
    rw [hk, Except.map]
    exact ⟨by simp [hzero], by simp [hover], by simp, fun _ _ _ => ⟨k, rfl, hexact⟩⟩

theorem apply_computes_spelled_remainder :
    Operator.Exact Int64.minValue.toInt (10 : Int64).toInt .modulo (-8) ∧
      Value.ReadsAs Int64.minValue (.string " -9223372036854775808\n") ∧
      Value.ReadsAs 10 (.string "+010") ∧
      Operator.Computes .modulo Int64.minValue 10 (-8)
        (Operator.modulo.apply (.string " -9223372036854775808\n") (.string "+010")) := by
  have hexact : Operator.Exact Int64.minValue.toInt (10 : Int64).toInt .modulo (-8) := .modulo
  have hleast : Value.ReadsAs Int64.minValue (.string " -9223372036854775808\n") :=
    numeric?_eq_integer.mp (by decide +kernel)
  have hten : Value.ReadsAs 10 (.string "+010") := numeric?_eq_integer.mp (by decide +kernel)
  exact ⟨hexact, hleast, hten, apply_computes hexact hleast hten nofun⟩

theorem remainder_least_overflows :
    Value.ReadsAs Int64.minValue (.integer Int64.minValue) ∧ Value.ReadsAs (-1) (.integer (-1)) ∧
      Operator.Exact Int64.minValue.toInt (-1 : Int64).toInt .modulo 0 ∧ Number.Fits64 0 ∧
      Operator.modulo.apply (.integer Int64.minValue) (.integer (-1)) =
        .error (.overflow Int64.minValue .modulo (-1)) :=
  ⟨.integer, .integer, .modulo, by decide, by decide +kernel⟩

end Quarry
