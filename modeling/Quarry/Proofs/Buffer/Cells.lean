import Mathlib.Data.List.Nodup
import Quarry.Proofs.Buffer.History

/-!
# Cells apart from identities

What a row has in the columns that an insert fills. Values that have the types of these columns are
stored as they are, whatever they are, and the identity counts on.
-/

namespace Quarry

/-! ## 1. Values of a type -/

/-- A value of a type, or null. -/
def Value.IsOf (v : Value) (t : ValueType) : Prop := v = .null ∨ v.type = t

/-- A value that has the type of a column already is stored as it is. -/
theorem Value.convert_of_isOf {v : Value} {t : ValueType} (h : v.IsOf t) : v.convert? t = some v := by
  rcases h with rfl | rfl
  · cases t <;> rfl
  -- Text is its own text, and each other kind of value has a type for it alone.
  · cases v <;> rfl

/-! ## 2. Plain columns -/

namespace Schema

/-- Of a list with one entry for each column, the entries of the columns that are no identities. -/
def plain {α : Type} (schema : Schema) (entries : List α) : List α :=
  ((schema.columns.zip entries).filter fun p => !p.1.identity).map Prod.snd

/-- The types of the columns that are no identities, in order. -/
def plainTypes (schema : Schema) : List ValueType :=
  schema.plain (schema.columns.map BufferColumn.type)

variable {α β : Type}

theorem plain_cons (c : BufferColumn) (columns : List BufferColumn) (a : α) (entries : List α) :
    plain ⟨c :: columns⟩ (a :: entries) =
      if c.identity then plain ⟨columns⟩ entries else a :: plain ⟨columns⟩ entries := by
  unfold plain
  rw [List.zip_cons_cons, List.filter_cons]
  cases c.identity <;> rfl

-- The places behind the first column are those of the other columns, one further on.
theorem insertable_cons (c : BufferColumn) (columns : List BufferColumn) :
    insertable ⟨c :: columns⟩ =
      if c.identity then (insertable ⟨columns⟩).map Nat.succ
      else 0 :: (insertable ⟨columns⟩).map Nat.succ := by
  unfold insertable
  rw [List.length_cons, List.range_succ_eq_map, List.filter_cons, List.filter_map]
  simp only [List.getElem?_cons_zero, Option.map_some, Option.getD_some]
  cases c.identity <;> rfl

/-- The targets of an insert are the places of the plain entries. -/
theorem getElem?_plain (schema : Schema) {entries : List α}
    (hlength : entries.length = schema.columns.length) :
    List.Forall₂ (fun i a => entries[i]? = some a) schema.insertable (schema.plain entries) := by
  obtain ⟨columns⟩ := schema
  -- By induction on the columns and the entries side by side.
  induction columns generalizing entries with
  | nil => exact .nil
  | cons c columns ih =>
    cases entries with
    | nil => cases hlength
    | cons a entries =>
      have hrest : List.Forall₂ (fun i b => (a :: entries)[i]? = some b)
          ((insertable ⟨columns⟩).map Nat.succ) (plain ⟨columns⟩ entries) :=
        List.forall₂_map_left_iff.mpr (ih (Nat.succ.inj hlength))
      rw [insertable_cons, plain_cons]
      cases c.identity with
      | true => exact hrest
      | false => exact .cons rfl hrest

-- What holds of all entries holds of the plain ones.
theorem forall₂_plain {R : α → β → Prop} (schema : Schema) {as : List α} {bs : List β}
    (h : List.Forall₂ R as bs) : List.Forall₂ R (schema.plain as) (schema.plain bs) := by
  obtain ⟨columns⟩ := schema
  induction columns generalizing as bs with
  | nil => exact .nil
  | cons c columns ih =>
    cases h with
    | nil => exact .nil
    | cons hhead htail =>
      rw [plain_cons, plain_cons]
      cases c.identity with
      | true => exact ih htail
      | false => exact .cons hhead (ih htail)

-- A target is the place of a column that is no identity.
theorem mem_insertable {schema : Schema} {i : Nat} (hi : i ∈ schema.insertable) :
    i < schema.columns.length ∧ schema.identity? ≠ some i := by
  have hfillable := schema.fillable_insertable
  obtain ⟨c, hc, _⟩ := hfillable.2 i hi
  exact ⟨(List.getElem?_eq_some_iff.mp hc).1, fun hidentity => hfillable.identity_notMem hidentity hi⟩

end Schema

/-! ## 3. Inserts -/

/-- The row with given plain cells that a buffer gets after some others were inserted: its identity is the
next one of the buffer, counted on by one for each of those. -/
structure Buffer.Repeats (b : Buffer) (inserted : Nat) (cells row : List Value) : Prop where
  width : row.length = b.schema.columns.length
  cells : b.schema.plain row = cells
  numbered : ∀ index, b.schema.identity? = some index →
    row[index]? = some (.integer (b.nextIdentity + Int64.ofNat inserted))

namespace Buffer

variable {b : Buffer} {cells row : List Value}

-- Each value is aimed at a column of its type.
theorem isOf_of_mem_zip (h : List.Forall₂ Value.IsOf cells b.schema.plainTypes) {i : Nat} {v : Value}
    (hmem : (i, v) ∈ b.schema.insertable.zip cells) :
    ∃ c, b.schema.columns[i]? = some c ∧ v.IsOf c.type := by
  have htypes := b.schema.getElem?_plain (List.length_map BufferColumn.type)
  obtain ⟨k, hk, hget⟩ := List.getElem_of_mem hmem
  rw [List.getElem_zip] at hget
  obtain ⟨rfl, rfl⟩ := Prod.mk.inj hget
  rw [List.length_zip, Nat.lt_min] at hk
  have htype := (List.forall₂_iff_get.mp htypes).2 k hk.1 (htypes.length_eq ▸ hk.1)
  have hcell := (List.forall₂_iff_get.mp h).2 k hk.2 (h.length_eq ▸ hk.2)
  rw [List.getElem?_map] at htype
  obtain ⟨c, hc, hctype⟩ := Option.map_eq_some_iff.mp htype
  exact ⟨c, hc, hctype ▸ hcell⟩

-- The value aimed at a target is found from behind as well, as no other is aimed there.
theorem lookup_reverse_zip {targets : List Nat} (hnodup : targets.Nodup) {values : List Value}
    (hlength : targets.length = values.length) {i : Nat} {v : Value}
    (hmem : (i, v) ∈ targets.zip values) : (targets.zip values).reverse.lookup i = some v := by
  obtain ⟨front, rest, hsplit⟩ := List.append_of_mem (List.mem_reverse.mpr hmem)
  have hkeys : ((targets.zip values).reverse.map Prod.fst).Nodup := by
    rw [List.map_reverse, List.map_fst_zip (Nat.le_of_eq hlength)]
    exact List.nodup_reverse.mpr hnodup
  rw [hsplit] at hkeys ⊢
  refine List.lookup_eq_some_iff.mpr ⟨front, rest, rfl, fun p hp => ?_⟩
  rw [List.map_append, List.map_cons] at hkeys
  exact bne_iff_ne.mpr fun heq => (List.nodup_append.mp hkeys).2.2 _ (List.mem_map_of_mem hp) _
    List.mem_cons_self heq.symm

/-- Values of the types of the plain columns are appended as a row, just as they are. -/
theorem insert_plain (h : List.Forall₂ Value.IsOf cells b.schema.plainTypes) :
    ∃ row identity,
      b.insert b.schema.insertable cells = .ok ({ b with rows := b.rows.push row }, identity) ∧
      b.Repeats 0 cells row := by
  have hlength : b.schema.insertable.length = cells.length :=
    (b.schema.getElem?_plain (List.length_map BufferColumn.type)).length_eq.trans h.length_eq.symm
  rw [insert_eq hlength]
  cases hplace : b.placeAll (b.schema.insertable.zip cells)
      (List.replicate b.schema.columns.length .null) with
  | error e =>
    -- No conversion fails, as each value has the type of its column.
    obtain ⟨front, target, value, rest, c, hpairs, _, hc, hv, _⟩ := placeAll_eq_error hplace
    have hmem : (target, value) ∈ b.schema.insertable.zip cells := by
      rw [hpairs]
      exact List.mem_append_right front List.mem_cons_self
    obtain ⟨c', hc', hof⟩ := isOf_of_mem_zip h hmem
    rw [hc] at hc'
    cases hc'
    cases hv.symm.trans (Value.convert_of_isOf hof)
  | ok stored =>
    have happends := appends_of_placeAll (fun t ht => (Schema.mem_insertable ht).1) hlength hplace
    refine ⟨b.number stored, _, rfl, happends.width, ?_, fun index hindex => ?_⟩
    · have hcells : List.Forall₂ (fun i v => (b.number stored)[i]? = some v) b.schema.insertable cells := by
        refine List.forall₂_iff_zip.mpr ⟨hlength, fun {i v} hmem => ?_⟩
        obtain ⟨c, hc, hof⟩ := isOf_of_mem_zip h hmem
        have hidentity := (Schema.mem_insertable (List.of_mem_zip hmem).1).2
        obtain ⟨v', hv', hcell⟩ := happends.targeted i c v hc hidentity
          (lookup_reverse_zip b.schema.fillable_insertable.1 hlength hmem)
        rw [Value.convert_of_isOf hof] at hv'
        cases hv'
        exact hcell
      exact List.right_unique_forall₂' (fun _ _ _ hv hv' => Option.some.inj (hv.symm.trans hv'))
        (b.schema.getElem?_plain happends.width) hcells
    · obtain ⟨n, hn, hcell, _⟩ := happends.numbered index hindex
      rw [hindex] at hn
      cases hn
      rw [hcell, show Int64.ofNat 0 = 0 from rfl, Int64.add_zero]

end Buffer

end Quarry
