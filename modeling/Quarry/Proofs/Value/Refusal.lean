import Quarry.Proofs.Value.Typing

/-!
# Operands that analysis refuses

Analysis refuses arithmetic with a boolean, and so does the arithmetic itself when it meets one, with the
exception of `+` beside text: that joins the texts of any two values, a boolean included, although analysis
lets no script get there.
-/

namespace Quarry

/-- Whether `+` joins texts: a side is one. -/
def Operator.JoinsText (op : Operator) (left right : ValueType) : Prop :=
  op = .add ∧ (left = .string ∨ right = .string)

instance (op : Operator) (left right : ValueType) : Decidable (op.JoinsText left right) :=
  inferInstanceAs (Decidable (_ ∧ _))

/-- What analysis refuses is arithmetic with a boolean on a side. -/
theorem type?_eq_none {op : Operator} {l r : ValueType} :
    op.type? l r = none ↔
      op.isComparison = false ∧ op.isLogical = false ∧ (l = .boolean ∨ r = .boolean) := by
  cases hcompare : op.isComparison with
  | true => simp [Operator.type?, hcompare]
  | false =>
    cases hlogical : op.isLogical with
    | true => simp [Operator.type?, hcompare, hlogical]
    | false =>
      simp only [Operator.type?, hcompare, hlogical, Bool.or_self, Bool.false_eq_true, if_false,
        true_and]
      -- Arithmetic looks for booleans first. Any other pair of types has a type in each branch of the rule.
      cases l <;> cases r <;> simp only [reduceCtorEq, or_false, or_true, iff_false]
      all_goals
        intro h
        repeat' split at h
        all_goals cases h

-- Only text has the type of text.
theorem type_eq_string {v : Value} : v.type = .string ↔ ∃ s, v = .string s := by
  cases v <;> simp [Value.type]

theorem numeric?_of_type_boolean {v : Value} (h : v.type = .boolean) : v.numeric? = none := by
  cases v <;> first | rfl | cases h

-- Arithmetic that does not join texts refuses a boolean.
theorem apply_of_boolean {op : Operator} {a b : Value} (hcompare : op.isComparison = false)
    (ha : a ≠ .null) (hb : b ≠ .null) (hboolean : a.type = .boolean ∨ b.type = .boolean)
    (hjoins : ¬op.JoinsText a.type b.type) :
    op.apply a b = .error (.mismatch op a.type b.type) := by
  have htext : op = .add → (∀ s, a ≠ .string s) ∧ ∀ s, b ≠ .string s := by
    intro hadd
    constructor
    · rintro s rfl
      exact hjoins ⟨hadd, .inl rfl⟩
    · rintro s rfl
      exact hjoins ⟨hadd, .inr rfl⟩
  rw [apply_eq_numbers hcompare ha hb htext]
  rcases hboolean with h | h
  · rw [numeric?_of_type_boolean h]
  · rw [numeric?_of_type_boolean h]
    cases a.numeric? <;> rfl

-- `+` beside text joins the texts of both sides.
theorem apply_of_joinsText {op : Operator} {a b : Value} (ha : a ≠ .null) (hb : b ≠ .null)
    (h : op.JoinsText a.type b.type) : op.apply a b = .ok (.string (a.text ++ b.text)) := by
  obtain ⟨rfl, h⟩ := h
  rw [type_eq_string, type_eq_string] at h
  rcases h with ⟨s, rfl⟩ | ⟨s, rfl⟩
  · cases b <;> first | rfl | exact absurd rfl hb
  · cases a <;> first | rfl | exact absurd rfl ha

/-- What analysis refuses by the types of two values that are not null, the operator refuses for the same
types, exactly if it does not join texts. If it does, it has their joined texts as its value. -/
theorem refused_operands_mismatch {op : Operator} {a b : Value} (ha : a ≠ .null) (hb : b ≠ .null)
    (h : op.type? a.type b.type = none) :
    (op.apply a b = .error (.mismatch op a.type b.type) ↔ ¬op.JoinsText a.type b.type) ∧
      (op.JoinsText a.type b.type → op.apply a b = .ok (.string (a.text ++ b.text))) := by
  obtain ⟨hcompare, _, hboolean⟩ := type?_eq_none.mp h
  have hjoined : op.JoinsText a.type b.type → op.apply a b = .ok (.string (a.text ++ b.text)) :=
    apply_of_joinsText ha hb
  refine ⟨⟨fun hmismatch hjoins => ?_, apply_of_boolean hcompare ha hb hboolean⟩, hjoined⟩
  rw [hjoined hjoins] at hmismatch
  cases hmismatch

theorem refused_operands_mismatch_product :
    Operator.multiply.type? .boolean .string = none ∧
      Operator.multiply.apply (.boolean true) (.string "6") =
        .error (.mismatch .multiply .boolean .string) := by
  have hrefused : Operator.multiply.type? .boolean .string = none := by decide
  have hmismatch := refused_operands_mismatch (a := .boolean true) (b := .string "6") (by decide)
    (by decide) hrefused
  exact ⟨hrefused, hmismatch.1.mpr (by decide)⟩

/-- Analysis refuses to add text to a boolean, and the operator joins their texts. -/
theorem boolean_plus_text_joins :
    (Value.boolean true).type = .boolean ∧ (Value.string "a").type = .string ∧
      Operator.add.type? .boolean .string = none ∧
      Operator.add.apply (.boolean true) (.string "a") = .ok (.string "truea") ∧
      ¬∃ op l r, Operator.add.apply (.boolean true) (.string "a") = .error (.mismatch op l r) := by
  refine ⟨rfl, rfl, by decide, rfl, ?_⟩
  rintro ⟨op, l, r, h⟩
  cases h

end Quarry
