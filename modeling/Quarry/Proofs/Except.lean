import Mathlib.Data.List.Forall2

/-!
# Results and errors

When a sequence of computations that may fail has a result, and when it has an error.
-/

namespace Except

variable {ε ε' α β γ δ : Type}

/-! ## 1. Sequences -/

-- A sequence has a result if its first part has one, with which the rest has a result.
theorem bind_eq_ok {x : Except ε α} {f : α → Except ε β} {b : β} :
    x >>= f = .ok b ↔ ∃ a, x = .ok a ∧ f a = .ok b := by
  cases x with
  | error e => exact ⟨fun h => (nomatch h), fun ⟨_, h, _⟩ => (nomatch h)⟩
  | ok a => exact ⟨fun h => ⟨a, rfl, h⟩, fun ⟨_, ha, hf⟩ => by cases ha; exact hf⟩

-- Its error is that of the first part, or that of the rest.
theorem bind_eq_error {x : Except ε α} {f : α → Except ε β} {e : ε} :
    x >>= f = .error e ↔ x = .error e ∨ ∃ a, x = .ok a ∧ f a = .error e := by
  cases x with
  | error e' =>
    refine ⟨fun h => Or.inl (by cases h; rfl), ?_⟩
    rintro (h | ⟨_, h, _⟩)
    · cases h
      rfl
    · cases h
  | ok a =>
    refine ⟨fun h => Or.inr ⟨a, rfl, h⟩, ?_⟩
    rintro (h | ⟨_, ha, hf⟩)
    · cases h
    · cases ha
      exact hf

theorem map_eq_ok {x : Except ε α} {f : α → β} {b : β} :
    x.map f = .ok b ↔ ∃ a, x = .ok a ∧ f a = b := by
  cases x with
  | error e => exact ⟨fun h => (nomatch h), fun ⟨_, h, _⟩ => (nomatch h)⟩
  | ok a =>
    refine ⟨fun h => ⟨a, rfl, Except.ok.inj h⟩, ?_⟩
    rintro ⟨_, ha, rfl⟩
    cases ha
    rfl

theorem map_eq_error {x : Except ε α} {f : α → β} {e : ε} :
    x.map f = .error e ↔ x = .error e := by
  cases x with
  | error e' => exact ⟨fun h => by cases h; rfl, fun h => by cases h; rfl⟩
  | ok a => exact ⟨fun h => (nomatch h), fun h => (nomatch h)⟩

-- What is equal after two maps stays equal after a further one.
theorem map_then {x : Except ε α} {y : Except ε β} {f : α → γ} {g : β → γ}
    (h : x.map f = y.map g) (k : γ → δ) :
    (x.map fun a => k (f a)) = y.map fun b => k (g b) := by
  -- Both sides are cut into the given map and the further one.
  have hx : (x.map f).map k = x.map fun a => k (f a) := by cases x <;> rfl
  have hy : (y.map g).map k = y.map fun b => k (g b) := by cases y <;> rfl
  rw [← hx, h, hy]

theorem mapError_eq_ok {x : Except ε α} {f : ε → ε'} {a : α} :
    x.mapError f = .ok a ↔ x = .ok a := by
  cases x with
  | error e => exact ⟨fun h => (nomatch h), fun h => (nomatch h)⟩
  | ok a' => exact ⟨fun h => by cases h; rfl, fun h => by cases h; rfl⟩

theorem mapError_eq_error {x : Except ε α} {f : ε → ε'} {e : ε'} :
    x.mapError f = .error e ↔ ∃ e₀, x = .error e₀ ∧ f e₀ = e := by
  cases x with
  | error e₀ =>
    refine ⟨fun h => ⟨e₀, rfl, Except.error.inj h⟩, ?_⟩
    rintro ⟨_, he, rfl⟩
    cases he
    rfl
  | ok a => exact ⟨fun h => (nomatch h), fun ⟨_, h, _⟩ => (nomatch h)⟩

/-- What passes a check that throws goes on as it would without the check. -/
theorem ok_of_check {p : Prop} [Decidable p] {e : ε} {f : α → Except ε β} {x : Except ε β} {b : β}
    (h : (if p then throw e >>= f else x) = .ok b) : ¬p ∧ x = .ok b := by
  by_cases hp : p
  · rw [if_pos hp] at h
    cases h
  · rw [if_neg hp] at h
    exact ⟨hp, h⟩

/-- A check that throws has its error, or there is one behind it. -/
theorem error_of_check {p : Prop} [Decidable p] {e e' : ε} {f : α → Except ε β} {x : Except ε β}
    (h : (if p then throw e >>= f else x) = .error e') : p ∧ e' = e ∨ ¬p ∧ x = .error e' := by
  by_cases hp : p
  · rw [if_pos hp] at h
    exact .inl ⟨hp, (Except.error.inj h).symm⟩
  · rw [if_neg hp] at h
    exact .inr ⟨hp, h⟩

-- What holds of any result holds of the result that there is.
theorem exists_ok_of_isSome {x : Except ε α} {P : α → Prop} (h : x.toOption.isSome)
    (hresult : ∀ a, x = .ok a → P a) : ∃ a, x = .ok a ∧ P a := by
  cases x with
  | error e => cases h
  | ok a => exact ⟨a, rfl, hresult a rfl⟩

/-! ## 2. Lists -/

/-- A list has results exactly if each of its elements has one. -/
theorem mapM_eq_ok {f : α → Except ε β} {l : List α} {bs : List β} :
    l.mapM f = .ok bs ↔ List.Forall₂ (fun a b => f a = .ok b) l bs := by
  -- By induction on the list: the first element and the rest have results on their own.
  induction l generalizing bs with
  | nil =>
    rw [List.mapM_nil, List.forall₂_nil_left_iff]
    exact ⟨fun h => (Except.ok.inj h).symm, fun h => by rw [h]; rfl⟩
  | cons a l ih =>
    rw [List.mapM_cons, bind_eq_ok]
    constructor
    · rintro ⟨b, hb, h⟩
      obtain ⟨rest, hrest, h⟩ := bind_eq_ok.mp h
      cases h
      exact .cons hb (ih.mp hrest)
    · intro h
      cases h with
      | cons hb hrest => exact ⟨_, hb, bind_eq_ok.mpr ⟨_, ih.mpr hrest, rfl⟩⟩

-- The results of elements can be given one by one by what stands for each of them.
theorem mapM_flatMap_eq_ok {f : α → Except ε (List β)} {g : α → List α} {l : List α} {parts : List (List β)}
    (h : l.mapM f = .ok parts)
    (hg : ∀ a ∈ l, ∀ bs, f a = .ok bs → (g a).mapM f = .ok (bs.map fun b => [b])) :
    (l.flatMap g).mapM f = .ok (parts.flatten.map fun b => [b]) := by
  induction l generalizing parts with
  | nil =>
    cases h
    rfl
  | cons a l ih =>
    rw [List.mapM_cons] at h
    obtain ⟨bs, hbs, h⟩ := bind_eq_ok.mp h
    obtain ⟨rest, hrest, h⟩ := bind_eq_ok.mp h
    cases h
    rw [List.flatMap_cons, List.mapM_append, hg a List.mem_cons_self bs hbs,
      ih hrest fun a' ha' => hg a' (List.mem_cons_of_mem a ha'), List.flatten_cons, List.map_append]
    rfl

-- The error of a list is that of its first element without a result.
theorem mapM_eq_error {f : α → Except ε β} {l : List α} {e : ε} (h : l.mapM f = .error e) :
    ∃ before a after bs, l = before ++ a :: after ∧ before.mapM f = .ok bs ∧ f a = .error e := by
  induction l with
  | nil => cases h
  -- The first element has the error, or one of the rest; collecting results has none.
  | cons a l ih =>
    rw [List.mapM_cons] at h
    rcases bind_eq_error.mp h with ha | ⟨b, hb, h⟩
    · exact ⟨[], a, l, [], rfl, rfl, ha⟩
    · rcases bind_eq_error.mp h with h | ⟨_, _, h⟩
      · obtain ⟨before, a', after, bs, rfl, hbefore, he⟩ := ih h
        refine ⟨a :: before, a', after, b :: bs, rfl, ?_, he⟩
        exact mapM_eq_ok.mpr (.cons hb (mapM_eq_ok.mp hbefore))
      · cases h

theorem exists_of_mem_mapM {f : α → Except ε β} {l : List α} {bs : List β} (h : l.mapM f = .ok bs)
    {a : α} (ha : a ∈ l) : ∃ b, f a = .ok b := by
  obtain ⟨i, hi, rfl⟩ := List.getElem_of_mem ha
  have hall := mapM_eq_ok.mp h
  exact ⟨_, hall.get hi (hall.length_eq ▸ hi)⟩

theorem exists_of_mapM_eq_error {f : α → Except ε β} {l : List α} {e : ε}
    (h : l.mapM f = .error e) : ∃ a ∈ l, f a = .error e := by
  obtain ⟨before, a, after, _, rfl, _, ha⟩ := mapM_eq_error h
  exact ⟨a, List.mem_append_right before List.mem_cons_self, ha⟩

end Except
