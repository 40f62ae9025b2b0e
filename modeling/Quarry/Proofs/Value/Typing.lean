import Quarry.Analysis.Typing
import Quarry.Value.Arithmetic
import Quarry.Value.Convert

/-!
# Types of values

What a static type says of a value, and what operators and conversions make of values of known types.
Text is read as a number only when an operator meets it: where analysis expects an integer of it, it can
turn out a float.
-/

namespace Quarry

/-! ## 1. Values of a type -/

/-- A value that an operand of a type can have. Null is a value of every type, and an integer is one
where floats are expected. A float is one where integers are expected only if `loose` holds: text was
read as a number. -/
inductive Value.Fits (loose : Prop) : ValueType → Value → Prop
  | null (t : ValueType) : Fits loose t .null
  | boolean (b : Bool) : Fits loose .boolean (.boolean b)
  | string (s : String) : Fits loose .string (.string s)
  | integer (n : Int64) : Fits loose .integer (.integer n)
  | float (x : Float) : Fits loose .float (.float x)
  | widened (n : Int64) : Fits loose .float (.integer n)
  | read (h : loose) (x : Float) : Fits loose .integer (.float x)

namespace Value.Fits

variable {loose loose' : Prop} {t : ValueType} {v : Value}

-- What was read as a number under one condition was so under any weaker one.
theorem mono (h : v.Fits loose t) (himp : loose → loose') : v.Fits loose' t := by
  cases h with
  | null t => exact .null t
  | boolean b => exact .boolean b
  | string s => exact .string s
  | integer n => exact .integer n
  | float x => exact .float x
  | widened n => exact .widened n
  | read h x => exact .read (himp h) x

-- A value that is not null has the type of its kind, up to the reading of numbers.
theorem ne_boolean (h : v.Fits loose t) (ht : t ≠ .boolean) (b : Bool) : v ≠ .boolean b := by
  rintro rfl
  cases h
  exact ht rfl

-- Text is of the type of text, and a value of that type is text or null.
theorem type_of_string {s : String} (h : (Value.string s).Fits loose t) : t = .string := by
  cases h
  rfl

theorem exists_string (h : v.Fits loose .string) (hnull : v ≠ .null) : ∃ s, v = .string s := by
  cases h with
  | null => exact absurd rfl hnull
  | string s => exact ⟨s, rfl⟩

-- A literal fits its own type.
theorem self (v : Value) : v.Fits loose v.type := by
  cases v with
  | null => exact .null _
  | boolean b => exact .boolean b
  | integer n => exact .integer n
  | float x => exact .float x
  | string s => exact .string s

-- A value fits the common type of two branches if it fits that of one.
theorem unify {a b : ValueType} (h : a.unify? b = some t) (hv : v.Fits loose a ∨ v.Fits loose b) :
    v.Fits loose t := by
  unfold ValueType.unify? at h
  -- Types that differ have a common one only with null, or as numbers.
  by_cases hab : a = b
  · rw [if_pos hab] at h
    cases h
    subst hab
    exact hv.elim id id
  · rw [if_neg hab] at h
    cases a <;> cases b <;> cases h <;> rcases hv with hv | hv <;> cases hv <;>
      first
        | exact .null _
        | exact .boolean _
        | exact .string _
        | exact .integer _
        | exact .float _
        | exact .widened _
        | exact .read ‹_› _

end Value.Fits

/-! ## 2. Operators -/

/-- Whether arithmetic that reads text as a number without a fixed kind of result is applied: `-`, `*`
or `%`, with text on a side. -/
def Operator.ReadsText (op : Operator) (left right : ValueType) : Prop :=
  (op = .subtract ∨ op = .multiply ∨ op = .modulo) ∧ (left = .string ∨ right = .string)

-- The types that arithmetic can have.
theorem type?_eq_some {op : Operator} {l r t : ValueType} (hcompare : op.isComparison = false)
    (hlogical : op.isLogical = false) (h : op.type? l r = some t) :
    l ≠ .boolean ∧ r ≠ .boolean ∧
      ((op = .add ∧ (l = .string ∨ r = .string) ∧ t = .string) ∨
        ¬(op = .add ∧ (l = .string ∨ r = .string)) ∧
          ((l = .null ∧ r = .null ∧ t = .null) ∨ t = .float ∨
            (t = .integer ∧ op ≠ .divide ∧ l.asNumber = .integer ∧ r.asNumber = .integer))) := by
  have hneither : (op.isComparison || op.isLogical) = false := by rw [hcompare, hlogical]; rfl
  -- No side is a boolean: the first test of the rule refuses it.
  have hl : l ≠ .boolean := by
    rintro rfl
    simp [Operator.type?, hneither] at h
  have hr : r ≠ .boolean := by
    rintro rfl
    cases l <;> simp [Operator.type?, hneither] at h
  refine ⟨hl, hr, ?_⟩
  -- Without booleans the rest of the rule is a chain of tests.
  have h : (if op = .add ∧ (l = .string ∨ r = .string) then some .string
      else if l = .null ∧ r = .null then some .null
      else if op = .divide then some .float
      else if l.asNumber = .integer ∧ r.asNumber = .integer then some .integer
      else some ValueType.float) = some t := by
    rw [← h]
    unfold Operator.type?
    rw [hneither]
    cases l <;> cases r <;> first | rfl | contradiction
  split at h
  next hadd =>
    cases h
    exact Or.inl ⟨hadd.1, hadd.2, rfl⟩
  next hadd =>
    refine Or.inr ⟨hadd, ?_⟩
    split at h
    next hnull =>
      cases h
      exact Or.inl ⟨hnull.1, hnull.2, rfl⟩
    next =>
      split at h
      next =>
        cases h
        exact Or.inr (Or.inl rfl)
      next hdivide =>
        split at h
        next hnumbers =>
          cases h
          exact Or.inr (Or.inr ⟨rfl, hdivide, hnumbers⟩)
        next =>
          cases h
          exact Or.inr (Or.inl rfl)

-- Arithmetic on numbers gives an integer or a float, and a float only by a quotient or from a
-- float.
theorem onNumerics_eq_ok {op : Operator} {x y : Numeric} {v : Value}
    (h : op.onNumerics x y = .ok v) :
    (∃ n, v = .integer n) ∨ ∃ f, v = .float f ∧
      (op = .divide ∨ (∃ g, x = .float g) ∨ ∃ g, y = .float g) := by
  unfold Operator.onNumerics at h
  split at h
  · cases h
  · cases x with
    | float g => cases y <;> cases h <;> exact Or.inr ⟨_, rfl, Or.inr (Or.inl ⟨g, rfl⟩)⟩
    | integer m =>
      cases y with
      | float g => cases h; exact Or.inr ⟨_, rfl, Or.inr (Or.inr ⟨g, rfl⟩)⟩
      | integer n =>
        -- Of two integers only the quotient is a float.
        by_cases hdivide : op = .divide
        · simp only [hdivide, if_true] at h
          cases h
          exact Or.inr ⟨_, rfl, Or.inl hdivide⟩
        · simp only [if_neg hdivide] at h
          cases hn : op.onInt64s m n with
          | error e =>
            rw [hn] at h
            cases h
          | ok k =>
            rw [hn] at h
            cases h
            exact Or.inl ⟨k, rfl⟩

-- Arithmetic on numbers does not complain about kinds of values.
theorem onNumerics_ne_mismatch {op op' : Operator} {x y : Numeric} {l r : ValueType} :
    op.onNumerics x y ≠ .error (.mismatch op' l r) := by
  intro h
  unfold Operator.onNumerics at h
  split at h
  · cases h
  · cases x <;> cases y <;> simp only at h
    · split at h
      · cases h
      · unfold Operator.onInt64s at h
        simp only at h
        split at h
        · cases h
        · split at h <;> cases h
    all_goals cases h

-- Between values that are neither null nor text to join, arithmetic is that on numbers.
theorem apply_eq_numbers {op : Operator} {a b : Value} (hcompare : op.isComparison = false)
    (ha : a ≠ .null) (hb : b ≠ .null)
    (htext : op = .add → (∀ s, a ≠ .string s) ∧ ∀ s, b ≠ .string s) :
    op.apply a b = match a.numeric?, b.numeric? with
      | some x, some y => op.onNumerics x y
      | _, _ => .error (.mismatch op a.type b.type) := by
  unfold Operator.apply Operator.apply.numbers
  rw [hcompare]
  -- Only `+` does something else with text than to read it.
  by_cases hadd : op = .add
  · obtain ⟨hsa, hsb⟩ := htext hadd
    cases a <;> cases b <;> first
      | rfl
      | exact absurd rfl ha
      | exact absurd rfl hb
      | exact absurd rfl (hsa _)
      | exact absurd rfl (hsb _)
  · cases a <;> cases b <;> first
      | rfl
      | exact absurd rfl ha
      | exact absurd rfl hb
      | simp only [if_neg hadd]; rfl

-- Null goes through arithmetic.
theorem apply_null {op : Operator} {a b : Value} (hcompare : op.isComparison = false)
    (h : a = .null ∨ b = .null) : op.apply a b = .ok .null := by
  unfold Operator.apply
  rw [hcompare]
  rcases h with rfl | rfl
  · rfl
  · cases a <;> rfl

-- `+` joins texts when a side is one.
theorem apply_add_text {a b : Value} (ha : a ≠ .null) (hb : b ≠ .null)
    (h : (∃ s, a = .string s) ∨ ∃ s, b = .string s) : ∃ s, Operator.add.apply a b = .ok (.string s) := by
  rcases h with ⟨s, rfl⟩ | ⟨s, rfl⟩
  · cases b <;> first | exact ⟨_, rfl⟩ | exact absurd rfl hb
  · cases a <;> first | exact ⟨_, rfl⟩ | exact absurd rfl ha

/-- What arithmetic does with two values: null goes through, `+` joins texts when a side is one, and in
any other case both are read as numbers. -/
theorem apply_arithmetic {op : Operator} (a b : Value) (hcompare : op.isComparison = false) :
    op.apply a b = .ok .null ∨
      (op = .add ∧ ((∃ s, a = .string s) ∨ ∃ s, b = .string s) ∧
        ∃ s, op.apply a b = .ok (.string s)) ∨
      (a ≠ .null ∧ b ≠ .null ∧ (op = .add → (∀ s, a ≠ .string s) ∧ ∀ s, b ≠ .string s) ∧
        op.apply a b = match a.numeric?, b.numeric? with
          | some x, some y => op.onNumerics x y
          | _, _ => .error (.mismatch op a.type b.type)) := by
  by_cases hnull : a = .null ∨ b = .null
  · exact Or.inl (apply_null hcompare hnull)
  have ha : a ≠ .null := fun h => hnull (Or.inl h)
  have hb : b ≠ .null := fun h => hnull (Or.inr h)
  by_cases htext : op = .add ∧ ((∃ s, a = .string s) ∨ ∃ s, b = .string s)
  · obtain ⟨rfl, htext⟩ := htext
    exact Or.inr (Or.inl ⟨rfl, htext, apply_add_text ha hb htext⟩)
  · have hnotext : op = .add → (∀ s, a ≠ .string s) ∧ ∀ s, b ≠ .string s := fun hadd =>
      ⟨fun s h => htext ⟨hadd, Or.inl ⟨s, h⟩⟩, fun s h => htext ⟨hadd, Or.inr ⟨s, h⟩⟩⟩
    exact Or.inr (Or.inr ⟨ha, hb, hnotext, apply_eq_numbers hcompare ha hb hnotext⟩)

-- The value of a comparison is a boolean or null.
theorem apply_comparison {op : Operator} {a b v : Value} {loose : Prop}
    (hcompare : op.isComparison = true) (h : op.apply a b = .ok v) : v.Fits loose .boolean := by
  unfold Operator.apply at h
  rw [hcompare] at h
  cases h
  cases op.compare? a b with
  | none => exact .null _
  | some b => exact .boolean b

-- A value of a type that counts as an integer is a float only if text was read, now or before.
theorem reads_of_float {loose : Prop} {t : ValueType} {v : Value} (hv : v.Fits loose t)
    (ht : t.asNumber = .integer) {g : Float} (h : v.numeric? = some (.float g)) :
    loose ∨ t = .string := by
  -- The cases that are closed at once give no float, or are of no type that counts as an integer.
  cases hv with
  | string s => exact Or.inr rfl
  | read hloose x => exact Or.inl hloose
  | null t => cases h
  | boolean b => cases h
  | integer n => cases h
  | float x => cases ht
  | widened n => cases ht

-- The operators that read text as numbers of either kind.
theorem arithmetic_cases {op : Operator} (hcompare : op.isComparison = false)
    (hlogical : op.isLogical = false) (hadd : op ≠ .add) (hdivide : op ≠ .divide) :
    op = .subtract ∨ op = .multiply ∨ op = .modulo := by
  cases op <;> first
    | cases hcompare; done
    | cases hlogical; done
    | exact absurd rfl hadd
    | exact absurd rfl hdivide
    | simp

-- What arithmetic makes of numbers has its type. A float where an integer is expected comes from a
-- float on a side, so that text was read there or is read now.
theorem onNumerics_fits {op : Operator} {l r t : ValueType} {a b v : Value} {loose loose' : Prop}
    (hcompare : op.isComparison = false) (hlogical : op.isLogical = false)
    (hnot : ¬(op = .add ∧ (l = .string ∨ r = .string)))
    (ht : t = .float ∨
      (t = .integer ∧ op ≠ .divide ∧ l.asNumber = .integer ∧ r.asNumber = .integer))
    (ha : a.Fits loose l) (hb : b.Fits loose' r) {x y : Numeric} (hx : a.numeric? = some x)
    (hy : b.numeric? = some y) (hv : op.onNumerics x y = .ok v) :
    v.Fits (loose ∨ loose' ∨ op.ReadsText l r) t := by
  have hnumber := onNumerics_eq_ok hv
  rcases ht with rfl | ⟨rfl, hdivide, hlnum, hrnum⟩
  · rcases hnumber with ⟨n, rfl⟩ | ⟨f, rfl, _⟩
    · exact .widened n
    · exact .float f
  · rcases hnumber with ⟨n, rfl⟩ | ⟨f, rfl, hfloat⟩
    · exact .integer n
    · refine .read ?_ f
      have hreads : l = .string ∨ r = .string → op.ReadsText l r := fun hstring =>
        ⟨arithmetic_cases hcompare hlogical (fun hadd => hnot ⟨hadd, hstring⟩) hdivide, hstring⟩
      rcases hfloat with hdiv | ⟨g, rfl⟩ | ⟨g, rfl⟩
      · exact absurd hdiv hdivide
      · rcases reads_of_float ha hlnum hx with h | h
        · exact Or.inl h
        · exact Or.inr (Or.inr (hreads (Or.inl h)))
      · rcases reads_of_float hb hrnum hy with h | h
        · exact Or.inr (Or.inl h)
        · exact Or.inr (Or.inr (hreads (Or.inr h)))

/-- An operator gives a value of its type. Text is read where an operand of it read text, or where the
operator does. -/
theorem apply_fits {op : Operator} {l r t : ValueType} {a b v : Value} {loose loose' : Prop}
    (hlogical : op.isLogical = false) (ht : op.type? l r = some t) (ha : a.Fits loose l)
    (hb : b.Fits loose' r) (hv : op.apply a b = .ok v) :
    v.Fits (loose ∨ loose' ∨ op.ReadsText l r) t := by
  cases hcompare : op.isComparison with
  | true =>
    have htype : t = .boolean := by
      unfold Operator.type? at ht
      rw [hcompare] at ht
      cases ht
      rfl
    rw [htype]
    exact apply_comparison hcompare hv
  | false =>
    obtain ⟨_, _, htypes⟩ := type?_eq_some hcompare hlogical ht
    rcases apply_arithmetic a b hcompare with hnull | ⟨rfl, htext, s, hs⟩ | ⟨ha', hb', hnotext, heq⟩
    · rw [hnull] at hv
      cases hv
      exact .null t
    · -- If `+` meets text, its type is that of text.
      rw [hs] at hv
      cases hv
      rcases htypes with ⟨_, _, rfl⟩ | ⟨hnot, _⟩
      · exact .string s
      · refine absurd ⟨rfl, htext.imp ?_ ?_⟩ hnot
        · rintro ⟨s, rfl⟩
          exact ha.type_of_string
        · rintro ⟨s, rfl⟩
          exact hb.type_of_string
    · rw [heq] at hv
      cases hx : a.numeric? with
      | none =>
        rw [hx] at hv
        cases hv
      | some x =>
        cases hy : b.numeric? with
        | none =>
          rw [hx, hy] at hv
          cases hv
        | some y =>
          rw [hx, hy] at hv
          -- A type of text would need text on a side, and there is none; nor is a side null.
          rcases htypes with ⟨rfl, hstring, _⟩ | ⟨hnot, ⟨rfl, _, _⟩ | htype⟩
          · rcases hstring with rfl | rfl
            · obtain ⟨s, hs⟩ := ha.exists_string ha'
              exact absurd hs ((hnotext rfl).1 s)
            · obtain ⟨s, hs⟩ := hb.exists_string hb'
              exact absurd hs ((hnotext rfl).2 s)
          · cases ha
            exact absurd rfl ha'
          · exact onNumerics_fits hcompare hlogical hnot htype ha hb hx hy hv

/-- A value is text that spells no number. -/
def Value.IsWordy (v : Value) : Prop := ∃ s, v = .string s ∧ Numeric.ofText? s = none

/-- Arithmetic on values of fitting types complains about them only where text is read that spells no
number. -/
theorem apply_mismatch {op op' : Operator} {l r t lt rt : ValueType} {a b : Value}
    {loose loose' : Prop} (hlogical : op.isLogical = false) (ht : op.type? l r = some t)
    (ha : a.Fits loose l) (hb : b.Fits loose' r)
    (h : op.apply a b = .error (.mismatch op' lt rt)) :
    op' = op ∧ lt = a.type ∧ rt = b.type ∧ op ≠ .add ∧ op.isComparison = false ∧
      (∀ v, a ≠ .boolean v) ∧ (∀ v, b ≠ .boolean v) ∧ (a.IsWordy ∨ b.IsWordy) := by
  cases hcompare : op.isComparison with
  | true =>
    unfold Operator.apply at h
    rw [hcompare] at h
    cases h
  | false =>
    obtain ⟨hl, hr, _⟩ := type?_eq_some hcompare hlogical ht
    have hab := ha.ne_boolean hl
    have hbb := hb.ne_boolean hr
    rcases apply_arithmetic a b hcompare with hnull | ⟨_, _, s, hs⟩ | ⟨ha', hb', hnotext, heq⟩
    · rw [hnull] at h
      cases h
    · rw [hs] at h
      cases h
    · rw [heq] at h
      -- What is neither null nor a boolean counts as a number, unless it is text that spells none.
      have hwordy : ∀ v : Value, v ≠ .null → (∀ b, v ≠ .boolean b) → v.numeric? = none →
          v.IsWordy := by
        intro v hnull hbool hnone
        cases v with
        | null => exact absurd rfl hnull
        | boolean b => exact absurd rfl (hbool b)
        | integer n => cases hnone
        | float x => cases hnone
        | string s => exact ⟨s, rfl, hnone⟩
      -- So a side that counts as no number is to blame; numbers on both sides do not complain.
      have hside : a.IsWordy ∨ b.IsWordy := by
        cases hx : a.numeric? with
        | none => exact Or.inl (hwordy a ha' hab hx)
        | some x =>
          cases hy : b.numeric? with
          | none => exact Or.inr (hwordy b hb' hbb hy)
          | some y =>
            rw [hx, hy] at h
            exact absurd h onNumerics_ne_mismatch
      have hadd : op ≠ .add := by
        intro hadd
        rcases hside with ⟨s, hs, _⟩ | ⟨s, hs, _⟩
        · exact (hnotext hadd).1 s hs
        · exact (hnotext hadd).2 s hs
      have herror : OperatorError.mismatch op a.type b.type = .mismatch op' lt rt := by
        rcases hside with ⟨s, hs, hnone⟩ | ⟨s, hs, hnone⟩
        · have hx : a.numeric? = none := by rw [hs]; exact hnone
          rw [hx] at h
          exact Except.error.inj h
        · have hy : b.numeric? = none := by rw [hs]; exact hnone
          rw [hy] at h
          cases hx : a.numeric? <;> rw [hx] at h <;> exact Except.error.inj h
      cases herror
      exact ⟨rfl, rfl, rfl, hadd, rfl, hab, hbb, hside⟩

/-! ## 3. Conversions -/

/-- A value converted to the type of a column has it, without any reading of text left open. -/
theorem convert_fits {t : ValueType} {v v' : Value} (ht : t ≠ .null)
    (h : v.convert? t = some v') : v'.Fits False t := by
  -- A type of its own case each: what is converted is of that type by construction.
  cases t with
  | null => exact absurd rfl ht
  | string => cases v <;> cases h <;> first | exact .null _ | exact .string _
  | boolean =>
    cases v with
    | null => cases h; exact .null _
    | boolean b => cases h; exact .boolean b
    | string s =>
      obtain ⟨b, _, rfl⟩ := Option.map_eq_some_iff.mp h
      exact .boolean b
    | integer n => cases h
    | float x => cases h
  | integer =>
    cases v with
    | null => cases h; exact .null _
    | integer n => cases h; exact .integer n
    | float x =>
      obtain ⟨n, _, rfl⟩ := Option.map_eq_some_iff.mp h
      exact .integer n
    | string s =>
      obtain ⟨n, _, rfl⟩ := Option.map_eq_some_iff.mp h
      exact .integer n
    | boolean b => cases h
  | float =>
    cases v with
    | null => cases h; exact .null _
    | integer n => cases h; exact .float _
    | float x => cases h; exact .float x
    | string s =>
      obtain ⟨x, _, rfl⟩ := Option.map_eq_some_iff.mp h
      exact .float x
    | boolean b => cases h

/-- Why a value that a column accepts cannot be converted: text that spells no number of the type, or
for an integer a float that is none, which reading text gave. -/
theorem convert_eq_none {t produced : ValueType} {v : Value} {loose : Prop}
    (haccepts : t.accepts produced = true) (hv : v.Fits loose produced)
    (h : v.convert? t = none) :
    (t = .float ∧ ∃ s, v = .string s ∧ Number.readFloat? (Text.trimChars s.toList) = none) ∨
      (t = .integer ∧
        ((∃ s, v = .string s ∧ Number.readInt64? (Text.trimChars s.toList) = none) ∨
          (loose ∧ produced = .integer ∧ ∃ x, v = .float x ∧ Value.integerOfFloat? x = none))) := by
  -- What a column accepts leaves few pairs of a type and a value that can fail.
  cases hv with
  | null p => cases t <;> cases h
  | boolean b => cases t <;> first | cases h; done | cases haccepts
  | string s =>
    cases t with
    | integer => exact Or.inr ⟨rfl, Or.inl ⟨s, rfl, Option.map_eq_none_iff.mp h⟩⟩
    | float => exact Or.inl ⟨rfl, s, rfl, Option.map_eq_none_iff.mp h⟩
    | string => cases h
    | boolean => cases haccepts
    | null => cases haccepts
  | integer n => cases t <;> first | cases h; done | cases haccepts
  | float x =>
    cases t <;> first | cases haccepts; done | cases h
  | widened n => cases t <;> first | cases haccepts; done | cases h
  | read hloose x =>
    cases t with
    | integer => exact Or.inr ⟨rfl, Or.inr ⟨hloose, rfl, x, rfl, Option.map_eq_none_iff.mp h⟩⟩
    | float => cases h
    | string => cases h
    | boolean => cases haccepts
    | null => cases haccepts

end Quarry
