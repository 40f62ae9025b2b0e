import Mathlib.Logic.Function.Basic
import Quarry.Proofs.Buffer.Rows

/-!
# Stores that are changed in place

A shelf holds the buffers of a run and changes them in place. Beside each buffer it keeps a counter that
gives the identity of the next row, and what a call changed before it failed stays changed. The answers
and the buffers are those of the functions that give a new store.
-/

namespace Quarry

/-- A call to a store. -/
inductive Call where
  | create (name : String) (schema : Schema)
  | insert (name : String) (targets : List Nat) (values : List Value)

/-- What a call gives, and the store after it. -/
def Call.apply (s : Store) : Call → Except StoreError (Store × Option Int64)
  | .create name schema => (s.create name schema).map fun s => (s, none)
  | .insert name targets values => s.insert name targets values

/-! ## 1. Shelves -/

/-- Buffers that are changed in place, and the next identity of each. -/
structure Shelf where
  store : Store
  next : String → Int64

namespace Shelf

/-- The shelf without buffers. -/
def empty : Shelf := ⟨.empty, fun _ => 1⟩

/-- A change of a shelf. What was changed before an error stays changed. -/
abbrev Change := ExceptT StoreError (StateM Shelf)

/-- Adds a buffer. Its counter starts at one. -/
def create (name : String) (schema : Schema) : Change (Option Int64) := do
  match (← get).store.get? name with
  | some _ => throw (.duplicateBuffer name)
  | none =>
    modify fun s =>
      ⟨⟨s.store.buffers ++ [⟨name, schema, #[]⟩]⟩, Function.update s.next name 1⟩
    return none

/-- Appends a row. The counter goes on once the row is stored. -/
def insert (name : String) (targets : List Nat) (values : List Value) :
    Change (Option Int64) := do
  match (← get).store.get? name with
  | none => throw (.unknownBuffer name)
  | some b =>
    if targets.length ≠ values.length then throw (.width ⟨targets.length, values.length⟩)
    else
      let row ← liftExcept
        (b.placeAll (targets.zip values) (List.replicate b.schema.columns.length .null))
      match b.schema.identity? with
      | none =>
        append b row
        return none
      | some index =>
        let n := (← get).next name
        append b (row.set index (.integer n))
        modify fun s => { s with next := Function.update s.next name (n + 1) }
        return some n
where
  /-- Puts a row behind the rows of a buffer. -/
  append (b : Buffer) (row : List Value) : Change Unit :=
    modify fun s => { s with store := s.store.replace { b with rows := b.rows.push row } }

/-- The change that a call makes. -/
def change : Call → Change (Option Int64)
  | .create name schema => create name schema
  | .insert name targets values => insert name targets values

/-- What a call gives, and the shelf after it. -/
def call (s : Shelf) (c : Call) : Except StoreError (Option Int64) × Shelf := (change c).run.run s

/-! ## 2. Counters -/

/-- A shelf on which the counter of every buffer with an identity is that of its next row. -/
def Counts (s : Shelf) : Prop :=
  ∀ name b, s.store.get? name = some b → b.schema.identity?.isSome → s.next name = b.nextIdentity

theorem counts_empty : empty.Counts := fun _ _ hb => nomatch hb

-- A new buffer counts from one.
theorem Counts.create {s : Shelf} (h : s.Counts) {name : String} {schema : Schema}
    (hnone : s.store.get? name = none) :
    Counts ⟨⟨s.store.buffers ++ [⟨name, schema, #[]⟩]⟩, Function.update s.next name 1⟩ := by
  intro other b hb hidentity
  rw [Store.get?_concat hnone] at hb
  show Function.update s.next name 1 other = b.nextIdentity
  by_cases hother : other = name
  · rw [if_pos hother] at hb
    cases hb
    rw [hother, Function.update_self]
    rfl
  · rw [if_neg hother] at hb
    rw [Function.update_of_ne hother]
    exact h other b hb hidentity

-- A buffer that got a row counts on, and the counters of the others stay.
theorem Counts.insert {s : Shelf} (h : s.Counts) {name : String} {b : Buffer} {row : List Value}
    {next : String → Int64} (hb : s.store.get? name = some b)
    (hnext : b.schema.identity?.isSome → next name = b.nextIdentity + 1)
    (hothers : ∀ other, other ≠ name → next other = s.next other) :
    Counts ⟨s.store.replace { b with rows := b.rows.push row }, next⟩ := by
  intro other c hc hidentity
  have hname : b.name = name := Store.name_of_get? hb
  have hget : (s.store.replace { b with rows := b.rows.push row }).get? other =
      if other = name then some { b with rows := b.rows.push row } else s.store.get? other :=
    Store.get?_replace hb hname
  replace hc := hget.symm.trans hc
  show next other = c.nextIdentity
  by_cases hother : other = name
  · rw [if_pos hother] at hc
    cases hc
    rw [hother, hnext hidentity]
    unfold Buffer.nextIdentity
    rw [Array.size_push, Int64.ofNat_add (b.rows.size + 1) 1]
    rfl
  · rw [if_neg hother] at hc
    rw [hothers other hother]
    exact h other c hc hidentity

/-! ## 3. Calls -/

theorem run_get_bind {α : Type} (s : Shelf) (f : Shelf → Change α) :
    (get >>= f).run.run s = (f s).run.run s := rfl

theorem call_create (s : Shelf) (name : String) (schema : Schema) :
    s.call (.create name schema) =
      match s.store.create name schema with
      | .ok store => (.ok none, ⟨store, Function.update s.next name 1⟩)
      | .error e => (.error e, s) := by
  show (create name schema).run.run s = _
  unfold create Store.create
  rw [run_get_bind]
  cases s.store.get? name <;> rfl

theorem call_insert_unknown {s : Shelf} {name : String} (h : s.store.get? name = none)
    (targets : List Nat) (values : List Value) :
    s.call (.insert name targets values) = (.error (.unknownBuffer name), s) := by
  show (insert name targets values).run.run s = _
  unfold insert
  rw [run_get_bind, h]
  rfl

theorem call_insert {s : Shelf} {name : String} {b : Buffer} (h : s.store.get? name = some b)
    (targets : List Nat) (values : List Value) :
    s.call (.insert name targets values) =
      if targets.length ≠ values.length then
        (.error (.width ⟨targets.length, values.length⟩), s)
      else
        match b.placeAll (targets.zip values) (List.replicate b.schema.columns.length .null) with
        | .error e => (.error e, s)
        | .ok row =>
          match b.schema.identity? with
          | none => (.ok none, ⟨s.store.replace { b with rows := b.rows.push row }, s.next⟩)
          | some index =>
            (.ok (some (s.next name)),
              ⟨s.store.replace
                  { b with rows := b.rows.push (row.set index (.integer (s.next name))) },
                Function.update s.next name (s.next name + 1)⟩) := by
  show (insert name targets values).run.run s = _
  unfold insert
  rw [run_get_bind, h]
  simp only
  split
  · rfl
  · cases b.placeAll (targets.zip values) (List.replicate b.schema.columns.length .null) with
    | error e => rfl
    | ok row => cases b.schema.identity? <;> rfl

/-- A call answers as the function that gives a new store does, and leaves that store. One that fails
leaves the shelf as it was. -/
theorem call_cases {s : Shelf} (h : s.Counts) (c : Call) :
    (∃ e, c.apply s.store = .error e ∧ s.call c = (.error e, s)) ∨
      ∃ identity after, c.apply s.store = .ok (after.store, identity) ∧
        s.call c = (.ok identity, after) ∧ after.Counts := by
  cases c with
  | create name schema =>
    rw [call_create, Call.apply]
    unfold Store.create
    cases hb : s.store.get? name with
    | some b => exact Or.inl ⟨_, rfl, rfl⟩
    | none => exact Or.inr ⟨none, _, rfl, rfl, h.create hb⟩
  | insert name targets values =>
    rw [Call.apply]
    unfold Store.insert Store.get
    cases hb : s.store.get? name with
    | none => exact Or.inl ⟨_, rfl, call_insert_unknown hb targets values⟩
    | some b =>
      rw [call_insert hb]
      show (∃ e, (b.insert targets values >>= fun p => Except.ok (s.store.replace p.1, p.2)) = _ ∧ _) ∨
        ∃ identity after, (b.insert targets values >>= fun p =>
          Except.ok (s.store.replace p.1, p.2)) = _ ∧ _
      by_cases hlength : targets.length = values.length
      · rw [if_neg (not_not.mpr hlength), Buffer.insert_eq hlength]
        cases b.placeAll (targets.zip values) (List.replicate b.schema.columns.length .null) with
        | error e => exact Or.inl ⟨e, rfl, rfl⟩
        | ok row =>
          unfold Buffer.number
          cases hidentity : b.schema.identity? with
          | none =>
            refine Or.inr ⟨none, _, rfl, rfl, h.insert hb ?_ fun _ _ => rfl⟩
            rw [hidentity]
            exact nofun
          | some index =>
            -- The counter has the identity that the number of rows gives.
            have hnext : s.next name = b.nextIdentity :=
              h name b hb (by rw [hidentity]; rfl)
            rw [hnext]
            refine Or.inr ⟨_, _, rfl, rfl, h.insert hb ?_ ?_⟩
            · exact fun _ => Function.update_self name _ _
            · exact fun other hother => Function.update_of_ne hother _ _
      · rw [if_pos hlength, Buffer.insert_of_width hlength]
        exact Or.inl ⟨_, rfl, rfl⟩

end Shelf

end Quarry
