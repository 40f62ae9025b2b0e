import Quarry.Proofs.Run.Stores

/-!
# Rows of buffers

What one insert does to a buffer. A column holds the conversion of the last value that was aimed at it,
or null, and the identity holds the number of the row.
-/

namespace Quarry

-- What a column stores is null or of its type.
theorem Value.type_of_convert {t : ValueType} {v v' : Value} (ht : t ≠ .null)
    (h : v.convert? t = some v') : v' = .null ∨ v'.type = t := by
  -- Of the values that fit, only an integer among floats is of another type, and it is converted.
  cases convert_fits ht h with
  | null => exact Or.inl rfl
  | boolean b => exact Or.inr rfl
  | string s => exact Or.inr rfl
  | integer n => exact Or.inr rfl
  | float x => exact Or.inr rfl
  | widened n =>
    cases v with
    | string s =>
      obtain ⟨x, _, hx⟩ := Option.map_eq_some_iff.mp h
      cases hx
    | _ => cases h
  | read hloose x => exact hloose.elim

/-! ## 1. Values in their columns -/

namespace Buffer

variable {b : Buffer} {pairs : List (Nat × Value)} {row row' : List Value}

/-- A value that the column with an index takes, if there is one. -/
def Converts (b : Buffer) (p : Nat × Value) : Prop :=
  ∀ c, b.schema.columns[p.1]? = some c → (p.2.convert? c.type).isSome

/-- The row with the number of the next row in its identity column, if it has one. -/
def number (b : Buffer) (row : List Value) : List Value :=
  match b.schema.identity? with
  | some index => row.set index (.integer b.nextIdentity)
  | none => row

-- A value that its column does not take is the error.
theorem place_eq_error {target : Nat} {value : Value} {e : StoreError}
    (h : b.place row target value = .error e) :
    ∃ c, b.schema.columns[target]? = some c ∧ value.convert? c.type = none ∧
      e = .conversion b.name c.name value.text c.type := by
  unfold place at h
  split at h
  next => cases h
  next c hc =>
    split at h
    next => cases h
    next hv =>
      cases h
      exact ⟨c, hc, hv, rfl⟩

theorem place_eq_ok {target : Nat} {value : Value} {c : BufferColumn}
    (hc : b.schema.columns[target]? = some c) (h : b.place row target value = .ok row') :
    ∃ v, value.convert? c.type = some v ∧ row' = row.set target v := by
  unfold place at h
  simp only [hc] at h
  split at h
  next v hv =>
    cases h
    exact ⟨v, hv, rfl⟩
  next => cases h

-- At most the cell of the target changes.
theorem eq_or_set_of_place {target : Nat} {value : Value} (h : b.place row target value = .ok row') :
    row' = row ∨ ∃ v, row' = row.set target v := by
  cases hc : b.schema.columns[target]? with
  | none =>
    unfold place at h
    simp only [hc] at h
    exact Or.inl (Except.ok.inj h).symm
  | some c =>
    obtain ⟨v, _, hset⟩ := place_eq_ok hc h
    exact Or.inr ⟨v, hset⟩

/-- If values cannot be stored, the error is that of the first one that its column does not take. -/
theorem placeAll_eq_error {e : StoreError} (h : b.placeAll pairs row = .error e) :
    ∃ before target value after c, pairs = before ++ (target, value) :: after ∧
      (∀ p ∈ before, b.Converts p) ∧ b.schema.columns[target]? = some c ∧
      value.convert? c.type = none ∧ e = .conversion b.name c.name value.text c.type := by
  -- By induction on the values up to the one that fails.
  induction pairs generalizing row with
  | nil => cases h
  | cons p pairs ih =>
    obtain ⟨target, value⟩ := p
    unfold placeAll at h
    rcases Except.bind_eq_error.mp h with hplace | ⟨row₁, hplace, h⟩
    · obtain ⟨c, hc, hv, rfl⟩ := place_eq_error hplace
      exact ⟨[], target, value, pairs, c, rfl, fun _ hp => absurd hp List.not_mem_nil, hc, hv, rfl⟩
    · obtain ⟨before, t, v, behind, c, rfl, hbefore, hc, hv, rfl⟩ := ih h
      refine ⟨(target, value) :: before, t, v, behind, c, rfl, fun p hp => ?_, hc, hv, rfl⟩
      rcases List.mem_cons.mp hp with rfl | hp
      · intro d hd
        obtain ⟨w, hw, _⟩ := place_eq_ok hd hplace
        rw [hw]
        rfl
      · exact hbefore p hp

-- Values that are stored were converted.
theorem converts_of_placeAll (h : b.placeAll pairs row = .ok row') : ∀ p ∈ pairs, b.Converts p := by
  induction pairs generalizing row with
  | nil => exact fun p hp => absurd hp List.not_mem_nil
  | cons p pairs ih =>
    unfold placeAll at h
    obtain ⟨row₁, hplace, h⟩ := Except.bind_eq_ok.mp h
    intro q hq
    rcases List.mem_cons.mp hq with rfl | hq
    · intro c hc
      obtain ⟨v, hv, _⟩ := place_eq_ok hc hplace
      rw [hv]
      rfl
    · exact ih h q hq

/-- The cell of a column once values are stored: the last value aimed at the column is converted, and
without one the cell is as before. -/
theorem getElem?_of_placeAll (h : b.placeAll pairs row = .ok row')
    (hrow : row.length = b.schema.columns.length) :
    row'.length = b.schema.columns.length ∧
      ∀ i c, b.schema.columns[i]? = some c →
        (∀ value, pairs.reverse.lookup i = some value →
          ∃ v, value.convert? c.type = some v ∧ row'[i]? = some v) ∧
        (pairs.reverse.lookup i = none → row'[i]? = row[i]?) := by
  -- By induction on the values: a later value for the same column wins.
  induction pairs generalizing row with
  | nil =>
    cases h
    refine ⟨hrow, fun i c hc => ⟨fun value hvalue => ?_, fun _ => rfl⟩⟩
    cases hvalue
  | cons p pairs ih =>
    obtain ⟨target, first⟩ := p
    unfold placeAll at h
    obtain ⟨row₁, hplace, h⟩ := Except.bind_eq_ok.mp h
    have hrow₁ : row₁.length = b.schema.columns.length := by
      rcases eq_or_set_of_place hplace with rfl | ⟨v, rfl⟩
      · exact hrow
      · rw [List.length_set]
        exact hrow
    obtain ⟨hlength, hcells⟩ := ih h hrow₁
    refine ⟨hlength, fun i c hc => ?_⟩
    obtain ⟨hlast, hkept⟩ := hcells i c hc
    rw [List.reverse_cons, List.lookup_append]
    cases hrest : pairs.reverse.lookup i with
    | some value =>
      refine ⟨fun value' hvalue' => ?_, fun hnone => by simp at hnone⟩
      cases hvalue'
      exact hlast value hrest
    | none =>
      rw [Option.none_or]
      have hcell := hkept hrest
      by_cases htarget : i = target
      · subst htarget
        obtain ⟨v, hv, rfl⟩ := place_eq_ok hc hplace
        have hi : i < row.length := by
          rw [hrow]
          exact (List.getElem?_eq_some_iff.mp hc).1
        rw [List.lookup_cons_self]
        refine ⟨fun value hvalue => ?_, fun hnone => by cases hnone⟩
        cases hvalue
        refine ⟨v, hv, hcell.trans ?_⟩
        rw [List.getElem?_set_self hi]
      · have hskip : List.lookup i [(target, first)] = none := by
          rw [List.lookup_cons, beq_false_of_ne htarget]
          rfl
        rw [hskip]
        refine ⟨fun value hvalue => (by cases hvalue), fun _ => hcell.trans ?_⟩
        -- The first value went to another column, or to none.
        rcases eq_or_set_of_place hplace with rfl | ⟨v, rfl⟩
        · rfl
        · exact List.getElem?_set_ne (Ne.symm htarget)

/-! ## 2. Inserts -/

theorem insert_of_width {targets : List Nat} {values : List Value}
    (h : targets.length ≠ values.length) :
    b.insert targets values = .error (.width ⟨targets.length, values.length⟩) := by
  unfold insert buildRow
  rw [if_pos h]
  rfl

-- As many values as targets are converted one by one, and the row is numbered at the end.
theorem insert_eq {targets : List Nat} {values : List Value}
    (h : targets.length = values.length) :
    b.insert targets values =
      (b.placeAll (targets.zip values) (List.replicate b.schema.columns.length .null)).map fun row =>
        ({ b with rows := b.rows.push (b.number row) },
          b.schema.identity?.map fun _ => b.nextIdentity) := by
  unfold insert buildRow number
  rw [if_neg (not_not.mpr h)]
  cases b.placeAll (targets.zip values) (List.replicate b.schema.columns.length .null) with
  | error e => rfl
  | ok row => cases b.schema.identity? <;> rfl

end Buffer

end Quarry
