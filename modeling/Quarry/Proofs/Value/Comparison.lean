import Quarry.Proofs.Number.Integers
import Quarry.Value.Arithmetic

/-!
# Comparisons

The six comparisons are one family. Null makes each of them null. Otherwise `=` and `<>` are opposite, and
the four of order are null together, between values without an order, or tell which of less, equal and
greater holds.
-/

namespace Quarry

open Float.Model (UnpackedFloat)

/-! ## 1. Definitions -/

/-- Whether the operator compares by order. -/
def Operator.isOrder : Operator → Bool
  | less | greater | lessEqual | greaterEqual => true
  | _ => false

/-- The operator that says the same with its sides swapped. -/
def Operator.flip : Operator → Operator
  | less => greater
  | greater => less
  | lessEqual => greaterEqual
  | greaterEqual => lessEqual
  | op => op

/-- Values with an order: two strings, two booleans, or two that count as numbers of which neither is NaN. -/
inductive Value.Comparable : Value → Value → Prop where
  | strings (s t : String) : Comparable (.string s) (.string t)
  | booleans (p q : Bool) : Comparable (.boolean p) (.boolean q)
  | numbers {a b : Value} {x y : Numeric} (ha : a.numeric? = some x) (hb : b.numeric? = some y)
      (hx : x.toFloat.isNaN = false) (hy : y.toFloat.isNaN = false) : Comparable a b

/-- What the comparisons of two values have to do with each other. -/
structure Value.Cohere (a b : Value) : Prop where
  /-- Swapping the sides swaps the operators. -/
  equal_comm : Operator.equal.apply a b = Operator.equal.apply b a
  notEqual_comm : Operator.notEqual.apply a b = Operator.notEqual.apply b a
  less_comm : Operator.less.apply a b = Operator.greater.apply b a
  lessEqual_comm : Operator.lessEqual.apply a b = Operator.greaterEqual.apply b a
  null : a = .null ∨ b = .null → ∀ op : Operator, op.isComparison → op.apply a b = .ok .null
  opposite : a ≠ .null → b ≠ .null → ∃ e : Bool, Operator.equal.apply a b = .ok (.boolean e) ∧
    Operator.notEqual.apply a b = .ok (.boolean !e)
  /-- Values without an order are not equal. -/
  unordered : a ≠ .null → b ≠ .null → ¬a.Comparable b →
    (∀ op : Operator, op.isOrder → op.apply a b = .ok .null) ∧
      Operator.equal.apply a b = .ok (.boolean false)
  /-- Exactly one of less, equal and greater holds of values with an order. -/
  ordered : a.Comparable b → ∃ l e g : Bool, [l, e, g].count true = 1 ∧
    Operator.less.apply a b = .ok (.boolean l) ∧
    Operator.equal.apply a b = .ok (.boolean e) ∧
    Operator.greater.apply a b = .ok (.boolean g) ∧
    Operator.lessEqual.apply a b = .ok (.boolean (l || e)) ∧
    Operator.greaterEqual.apply a b = .ok (.boolean (g || e))

/-! ## 2. Floats -/

theorem unpacked_compare_eq_none (u v : UnpackedFloat) :
    u.compare v = none ↔ u.isNaN ∨ v.isNaN := by
  fun_cases UnpackedFloat.compare u v <;> simp_all [UnpackedFloat.isNaN]

theorem unpacked_compare_swap (u v : UnpackedFloat) :
    v.compare u = (u.compare v).map Ordering.swap := by
  have hmagnitude (e e' : Int) (m m' : Nat) :
      (compare e' e).then (compare m' m) = ((compare e e').then (compare m m')).swap := by
    rw [Ordering.swap_then, ← Std.OrientedCmp.eq_swap, ← Std.OrientedCmp.eq_swap]
  cases u with
  | notANumber => cases v <;> rfl
  | infinity s =>
    cases v with
    | infinity s' => cases s <;> cases s' <;> rfl
    | notANumber | zero s' | finite s' m' e' hm' => cases s <;> rfl
  | zero s =>
    cases v with
    | notANumber | zero s' => rfl
    | infinity s' | finite s' m' e' hm' => cases s' <;> rfl
  | finite s m e hm =>
    cases v with
    | notANumber | zero s' => cases s <;> rfl
    | infinity s' => cases s <;> cases s' <;> rfl
    | finite s' m' e' hm' =>
      -- With one sign the magnitudes decide, below zero the other way round.
      cases s <;> cases s'
      · exact congrArg (some ∘ Ordering.swap) (hmagnitude e e' m m')
      · rfl
      · rfl
      · exact congrArg some (hmagnitude e e' m m')

/-- The tests for less and for equal, made one after the other, find the order of two floats. -/
theorem compareFloats_eq (x y : Float) :
    Numeric.compareFloats x y = x.toModel.unpack.compare y.toModel.unpack := by
  have hlt (x y : Float) : x < y ↔ x.toModel.unpack.compare y.toModel.unpack = some .lt := by
    show decide _ = true ↔ _
    rw [decide_eq_true_iff]
    show (_ == _) = true ↔ _
    rw [beq_iff_eq]
  have heq : (x == y) = (x.toModel.unpack.compare y.toModel.unpack == some .eq) := rfl
  unfold Numeric.compareFloats
  simp only [hlt, heq, unpacked_compare_swap x.toModel.unpack y.toModel.unpack]
  cases x.toModel.unpack.compare y.toModel.unpack with
  | none => rfl
  | some o => cases o <;> rfl

theorem compareFloats_swap (x y : Float) :
    Numeric.compareFloats y x = (Numeric.compareFloats x y).map Ordering.swap := by
  rw [compareFloats_eq, compareFloats_eq, unpacked_compare_swap]

theorem compareFloats_eq_none {x y : Float} :
    Numeric.compareFloats x y = none ↔ ¬(x.isNaN = false ∧ y.isNaN = false) := by
  have hnan (z : Float) : z.toModel.unpack.isNaN = z.isNaN := rfl
  rw [compareFloats_eq, unpacked_compare_eq_none, hnan, hnan]
  cases x.isNaN <;> cases y.isNaN <;> simp

/-! ## 3. Numbers -/

theorem numeric_compare_swap (x y : Numeric) :
    y.compare? x = (x.compare? y).map Ordering.swap := by
  cases x with
  | integer m =>
    cases y with
    | integer n => exact congrArg some (@Std.OrientedCmp.eq_swap _ compare _ n m)
    | float y => exact compareFloats_swap _ _
  | float x => cases y <;> exact compareFloats_swap _ _

theorem numeric_compare_eq_none {x y : Numeric} :
    x.compare? y = none ↔ ¬(x.toFloat.isNaN = false ∧ y.toFloat.isNaN = false) := by
  cases x with
  | integer m =>
    cases y with
    | integer n =>
      exact iff_of_false nofun (not_not_intro ⟨Number.isNaN_ofInt64 m, Number.isNaN_ofInt64 n⟩)
    | float y => exact compareFloats_eq_none
  | float x => cases y <;> exact compareFloats_eq_none

/-- The order of two values that are read as numbers. -/
def compareNumbers (a b : Value) : Option Ordering :=
  match a.numeric?, b.numeric? with
  | some x, some y => x.compare? y
  | _, _ => none

theorem compareNumbers_swap (a b : Value) :
    compareNumbers b a = (compareNumbers a b).map Ordering.swap := by
  unfold compareNumbers
  cases a.numeric? with
  | none => cases b.numeric? <;> rfl
  | some x =>
    cases b.numeric? with
    | none => rfl
    | some y => exact numeric_compare_swap x y

theorem compareNumbers_eq_none {a b : Value} : compareNumbers a b = none ↔
    ¬∃ x y, a.numeric? = some x ∧ b.numeric? = some y ∧ x.toFloat.isNaN = false ∧
      y.toFloat.isNaN = false := by
  unfold compareNumbers
  cases a.numeric? with
  | none => simp
  | some x =>
    cases b.numeric? with
    | none => simp
    | some y => simp [numeric_compare_eq_none]

/-! ## 4. Values -/

theorem compare?_null {a b : Value} (h : a = .null ∨ b = .null) : a.compare? b = none := by
  rcases h with rfl | rfl
  · rfl
  · cases a <;> rfl

theorem looseEq?_null {a b : Value} (h : a = .null ∨ b = .null) : a.looseEq? b = none := by
  rcases h with rfl | rfl
  · rfl
  · cases a <;> rfl

/-- Two strings and two booleans have an order of their own. Other values but null compare as numbers. -/
theorem comparison_cases {a b : Value} (ha : a ≠ .null) (hb : b ≠ .null) :
    (∃ s t, a = .string s ∧ b = .string t) ∨ (∃ p q, a = .boolean p ∧ b = .boolean q) ∨
      (a.compare? b = compareNumbers a b ∧ b.compare? a = compareNumbers b a ∧
        a.looseEq? b = some (compareNumbers a b == some .eq)) := by
  have hnumbers : (match a.numeric?, b.numeric? with
      | some x, some y => some (x.compare? y == some .eq)
      | _, _ => some false) = some (compareNumbers a b == some .eq) := by
    unfold compareNumbers
    cases a.numeric? <;> cases b.numeric? <;> rfl
  cases a <;> cases b <;> first
    | exact absurd rfl ha
    | exact absurd rfl hb
    | exact .inl ⟨_, _, rfl, rfl⟩
    | exact .inr (.inl ⟨_, _, rfl, rfl⟩)
    | exact .inr (.inr ⟨rfl, rfl, hnumbers⟩)

theorem compare?_swap (a b : Value) : b.compare? a = (a.compare? b).map Ordering.swap := by
  by_cases hnull : a = .null ∨ b = .null
  · rw [compare?_null hnull, compare?_null hnull.symm]
    rfl
  · rw [not_or] at hnull
    rcases comparison_cases hnull.1 hnull.2 with ⟨s, t, rfl, rfl⟩ | ⟨p, q, rfl, rfl⟩ | ⟨h, h', _⟩
    · exact congrArg some (@Std.OrientedCmp.eq_swap _ compare _ t s)
    · exact congrArg some (@Std.OrientedCmp.eq_swap _ compare _ q p)
    · rw [h, h', compareNumbers_swap]

/-- Apart from null, values are equal if their order says so. -/
theorem looseEq?_eq {a b : Value} (ha : a ≠ .null) (hb : b ≠ .null) :
    a.looseEq? b = some (a.compare? b == some .eq) := by
  have heq {α : Type} [Ord α] [Std.LawfulEqOrd α] [BEq α] [LawfulBEq α] (x y : α) :
      (x == y) = (some (compare x y) == some .eq) := by
    rw [Bool.eq_iff_iff, beq_iff_eq, beq_iff_eq, Option.some_inj, Std.LawfulEqCmp.compare_eq_iff_eq]
  rcases comparison_cases ha hb with ⟨s, t, rfl, rfl⟩ | ⟨p, q, rfl, rfl⟩ | ⟨h, _, hloose⟩
  · exact congrArg some (heq s t)
  · exact congrArg some (heq p q)
  · rw [h, hloose]

theorem looseEq?_comm (a b : Value) : a.looseEq? b = b.looseEq? a := by
  by_cases hnull : a = .null ∨ b = .null
  · rw [looseEq?_null hnull, looseEq?_null hnull.symm]
  · rw [not_or] at hnull
    rw [looseEq?_eq hnull.1 hnull.2, looseEq?_eq hnull.2 hnull.1, compare?_swap a b]
    cases a.compare? b with
    | none => rfl
    | some o => cases o <;> rfl

theorem Value.Comparable.ne_null {a b : Value} (h : a.Comparable b) : a ≠ .null ∧ b ≠ .null := by
  cases h with
  | strings s t | booleans p q => exact ⟨nofun, nofun⟩
  | numbers ha hb =>
    constructor
    · rintro rfl
      cases ha
    · rintro rfl
      cases hb

theorem compare?_eq_none {a b : Value} : a.compare? b = none ↔ ¬a.Comparable b := by
  constructor
  · intro hnone hcomparable
    have ⟨ha, hb⟩ := hcomparable.ne_null
    cases hcomparable with
    | strings s t | booleans p q => cases hnone
    | numbers hx hy hnan hnan' =>
      rcases comparison_cases ha hb with ⟨s, t, rfl, rfl⟩ | ⟨p, q, rfl, rfl⟩ | ⟨h, _, _⟩
      · cases hnone
      · cases hnone
      · rw [h, compareNumbers_eq_none] at hnone
        exact hnone ⟨_, _, hx, hy, hnan, hnan'⟩
  · intro h
    by_cases hnull : a = .null ∨ b = .null
    · exact compare?_null hnull
    · rw [not_or] at hnull
      rcases comparison_cases hnull.1 hnull.2 with ⟨s, t, rfl, rfl⟩ | ⟨p, q, rfl, rfl⟩ | ⟨heq, _, _⟩
      · exact absurd (.strings s t) h
      · exact absurd (.booleans p q) h
      · rw [heq, compareNumbers_eq_none]
        exact fun ⟨_, _, hx, hy, hnan, hnan'⟩ => h (.numbers hx hy hnan hnan')

/-! ## 5. Operators -/

theorem apply_of_isComparison {op : Operator} (h : op.isComparison) (a b : Value) :
    op.apply a b = .ok (((op.compare? a b).map Value.boolean).getD .null) := if_pos h

theorem compare?_flip (op : Operator) (a b : Value) : op.compare? a b = op.flip.compare? b a := by
  have hswap (o : Ordering) : (o.swap == .lt) = (o == .gt) ∧ (o.swap == .gt) = (o == .lt) ∧
      (o.swap != .lt) = (o != .gt) ∧ (o.swap != .gt) = (o != .lt) := by
    cases o <;> decide
  cases op with
  | equal | notEqual => simp only [Operator.flip, Operator.compare?, looseEq?_comm a b]
  | less | greater | lessEqual | greaterEqual =>
    simp [Operator.flip, Operator.compare?, compare?_swap a b, Function.comp_def, hswap]
  | add | subtract | multiply | divide | modulo | and | or => rfl

theorem apply_flip {op : Operator} (h : op.isComparison) (a b : Value) :
    op.apply a b = op.flip.apply b a := by
  have hflip : op.flip.isComparison := by cases op <;> first | rfl | cases h
  rw [apply_of_isComparison h, apply_of_isComparison hflip, compare?_flip]

theorem isComparison_of_isOrder {op : Operator} (h : op.isOrder) : op.isComparison := by
  cases op <;> first | rfl | cases h

-- Without an order the operators that ask for it have no answer.
theorem apply_of_compare?_eq_none {op : Operator} (h : op.isOrder) {a b : Value}
    (hnone : a.compare? b = none) : op.apply a b = .ok .null := by
  rw [apply_of_isComparison (isComparison_of_isOrder h)]
  cases op <;> first | cases h; done | simp [Operator.compare?, hnone]

theorem apply_null_of_isComparison {op : Operator} (h : op.isComparison) {a b : Value}
    (hnull : a = .null ∨ b = .null) : op.apply a b = .ok .null := by
  rw [apply_of_isComparison h]
  cases op <;> first
    | cases h; done
    | simp [Operator.compare?, compare?_null hnull, looseEq?_null hnull]

-- What the operators make of the order of two values.
theorem apply_equal {a b : Value} (ha : a ≠ .null) (hb : b ≠ .null) :
    Operator.equal.apply a b = .ok (.boolean (a.compare? b == some .eq)) := by
  rw [apply_of_isComparison rfl, Operator.compare?, looseEq?_eq ha hb]
  rfl

/-- The comparisons of any two values cohere. -/
theorem comparisons_cohere (a b : Value) : a.Cohere b where
  equal_comm := apply_flip rfl a b
  notEqual_comm := apply_flip rfl a b
  less_comm := apply_flip rfl a b
  lessEqual_comm := apply_flip rfl a b
  null hnull op hop := apply_null_of_isComparison hop hnull
  opposite ha hb := by
    refine ⟨_, apply_equal ha hb, ?_⟩
    rw [apply_of_isComparison rfl, Operator.compare?, looseEq?_eq ha hb]
    rfl
  unordered ha hb h := by
    have hnone := compare?_eq_none.mpr h
    refine ⟨fun op hop => apply_of_compare?_eq_none hop hnone, ?_⟩
    rw [apply_equal ha hb, hnone]
    rfl
  ordered h := by
    have ⟨ha, hb⟩ := h.ne_null
    cases ho : a.compare? b with
    | none => exact absurd h (compare?_eq_none.mp ho)
    | some o =>
      refine ⟨o == .lt, o == .eq, o == .gt, ?_, ?_, ?_, ?_, ?_, ?_⟩
      · cases o <;> rfl
      case refine_3 => rw [apply_equal ha hb, ho]; rfl
      all_goals
        rw [apply_of_isComparison rfl, Operator.compare?, ho]
        cases o <;> rfl

end Quarry
