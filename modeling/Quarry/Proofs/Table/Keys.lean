import Mathlib.Data.List.Count
import Mathlib.Data.List.Nodup
import Quarry.Proofs.Json.Members
import Quarry.Table.Document

/-!
# Keys of columns

A label that several columns share is told apart by the places of the columns. The keys are distinct
exactly if no other column has such a text for its label, and then the document of a table keeps each cell.
-/

namespace Quarry.Table

/-! ## 1. Definitions -/

/-- Several columns have the label of this one. -/
def Shares (t : Table) (c : Column) : Prop := 1 < t.labels.count c.label

instance (t : Table) (c : Column) : Decidable (t.Shares c) := inferInstanceAs (Decidable (_ < _))

/-- A label that no other column has is the text of a shared label with a place. -/
def Clashes (t : Table) : Prop :=
  ∃ c ∈ t.columns, t.Shares c ∧
    ∃ d ∈ t.columns, ¬t.Shares d ∧ d.label = s!"{c.label} {c.ordinal}"

instance (t : Table) : Decidable t.Clashes := inferInstanceAs (Decidable (∃ c ∈ t.columns, _))

/-- The members of an object keep a row: there is one for each column, no two have the same key, and the
key of a column has its cell. -/
structure KeepsRow (t : Table) (row : List Value) (members : List (String × Json)) : Prop where
  length : members.length = t.columns.length
  distinct : (members.map Prod.fst).Nodup
  cells : ∀ (i : Nat) (key : String) (cell : Value),
    t.keys[i]? = some key → row[i]? = some cell → (key, cell.toJson) ∈ members

/-! ## 2. Distinct keys -/

theorem space_notMem_toDigits (n : Nat) : ' ' ∉ Nat.toDigits 10 n := by
  intro hmem
  have hdigit := Nat.isDigit_of_mem_toDigits (by decide) (by decide) hmem
  contradiction

-- A text with a space in it is cut at the last one.
theorem append_space_inj {a a' b b' : List Char} (hb : ' ' ∉ b) (hb' : ' ' ∉ b')
    (h : a ++ ' ' :: b = a' ++ ' ' :: b') : a = a' ∧ b = b' := by
  have hcut (a b : List Char) (hb : ' ' ∉ b) :
      (a ++ ' ' :: b).reverse.takeWhile (· != ' ') = b.reverse := by
    have hall : ∀ c ∈ b.reverse, (c != ' ') = true := by
      intro c hc
      rw [bne_iff_ne]
      exact fun heq => hb (heq ▸ List.mem_reverse.mp hc)
    rw [List.reverse_append, List.reverse_cons, List.append_assoc,
      List.takeWhile_append_of_pos hall]
    simp
  have hback := hcut a b hb
  rw [h, hcut a' b' hb', List.reverse_inj] at hback
  rw [hback] at h
  exact ⟨List.append_cancel_right h, hback.symm⟩

/-- A label and a place are read off the text of both. -/
theorem label_place_inj {label label₁ : String} {place place₁ : Nat}
    (h : s!"{label} {place}" = s!"{label₁} {place₁}") : label = label₁ ∧ place = place₁ := by
  have hlists : label.toList ++ ' ' :: Nat.toDigits 10 place =
      label₁.toList ++ ' ' :: Nat.toDigits 10 place₁ := by
    simpa [toString] using congrArg String.toList h
  have ⟨hlabel, hplace⟩ :=
    append_space_inj (space_notMem_toDigits _) (space_notMem_toDigits _) hlists
  refine ⟨String.toList_inj.mp hlabel, ?_⟩
  calc
    place = Nat.ofDigitChars 10 (Nat.toDigits 10 place) 0 := Nat.ofDigitChars_ten_toDigits.symm
    _ = Nat.ofDigitChars 10 (Nat.toDigits 10 place₁) 0 := by rw [hplace]
    _ = place₁ := Nat.ofDigitChars_ten_toDigits

/-- The key of a column. -/
def key (t : Table) (c : Column) : String :=
  if t.Shares c then s!"{c.label} {c.ordinal}" else c.label

theorem keys_eq_map (t : Table) : t.keys = t.columns.map t.key := rfl

-- Two columns with one label share it.
theorem shares_of_label_eq {t : Table} {c d : Column} (hc : c ∈ t.columns) (hd : d ∈ t.columns)
    (hne : c ≠ d) (hlabel : c.label = d.label) : t.Shares c := by
  have hpair : [c, d].Nodup := by simp [hne]
  have hsub : [c, d].Subperm t.columns :=
    List.subperm_of_subset hpair (by simp [hc, hd])
  have hcount := hsub.countP_le fun e => e.label == c.label
  have htwo : [c, d].countP (fun e => e.label == c.label) = 2 := by simp [hlabel]
  have hlabels : t.labels.count c.label = t.columns.countP fun e => e.label == c.label :=
    List.countP_map
  rw [Shares]
  omega

variable {t : Table}

-- Columns in different places have one key only where a label is taken for another with its place.
theorem key_inj (hplaces : (t.columns.map Column.ordinal).Nodup) (hclear : ¬t.Clashes) {c d : Column}
    (hc : c ∈ t.columns) (hd : d ∈ t.columns) (h : t.key c = t.key d) : c = d := by
  unfold key at h
  by_cases hsc : t.Shares c
  · by_cases hsd : t.Shares d
    · rw [if_pos hsc, if_pos hsd] at h
      exact List.inj_on_of_nodup_map hplaces hc hd (label_place_inj h).2
    · rw [if_pos hsc, if_neg hsd] at h
      exact absurd ⟨c, hc, hsc, d, hd, hsd, h.symm⟩ hclear
  · by_cases hsd : t.Shares d
    · rw [if_neg hsc, if_pos hsd] at h
      exact absurd ⟨d, hd, hsd, c, hc, hsc, h⟩ hclear
    · rw [if_neg hsc, if_neg hsd] at h
      by_contra hne
      exact hsc (shares_of_label_eq hc hd hne h)

theorem nodup_keys_iff (hplaces : (t.columns.map Column.ordinal).Nodup) :
    t.keys.Nodup ↔ ¬t.Clashes := by
  have hcolumns : t.columns.Nodup := List.Nodup.of_map Column.ordinal hplaces
  rw [keys_eq_map, List.nodup_map_iff_inj_on hcolumns]
  constructor
  · rintro hinj ⟨c, hc, hsc, d, hd, hsd, hlabel⟩
    have hkey : t.key c = t.key d := by rw [key, key, if_pos hsc, if_neg hsd, hlabel]
    rw [hinj c hc d hd hkey] at hsc
    exact hsd hsc
  · intro hclear c hc d hd h
    exact key_inj hplaces hclear hc hd h

/-! ## 3. Documents -/

/-- The members of a row before they are put in order. -/
def members (t : Table) (row : List Value) : List (String × Json) := t.keys.zip (row.map Value.toJson)

theorem map_fst_members {row : List Value} (hwidth : row.length = t.columns.length) :
    (t.members row).map Prod.fst = t.keys := by
  apply List.map_fst_zip
  apply Nat.le_of_eq
  rw [List.length_map, hwidth, keys_eq_map, List.length_map]

theorem length_members {row : List Value} (hwidth : row.length = t.columns.length) :
    (t.members row).length = t.columns.length := by
  have h := congrArg List.length (map_fst_members hwidth)
  rw [List.length_map, keys_eq_map, List.length_map] at h
  exact h

theorem keepsRow_of_nodup {row : List Value} (hwidth : row.length = t.columns.length)
    (hkeys : t.keys.Nodup) : t.KeepsRow row (Json.sortMembers (t.members row)) := by
  have hdistinct := map_fst_members hwidth ▸ hkeys
  have hperm := Json.sortMembers_perm hdistinct
  refine ⟨?_, Json.nodup_keys_sortMembers _, fun i key cell hkey hcell => ?_⟩
  · rw [hperm.length_eq, length_members hwidth]
  · rw [hperm.mem_iff]
    apply List.mem_of_getElem? (i := i)
    simp [members, List.getElem?_zip_eq_some, hkey, hcell]

theorem length_sortMembers_lt_of_not_nodup {row : List Value}
    (hwidth : row.length = t.columns.length) (hkeys : ¬t.keys.Nodup) :
    (Json.sortMembers (t.members row)).length < t.columns.length := by
  rw [← length_members hwidth]
  apply Json.length_sortMembers_lt
  rw [map_fst_members hwidth]
  exact hkeys

/-- The document of a table whose columns have distinct places has one object for each row, in order. The
objects keep their rows if the labels of the columns do not clash, and otherwise each is short of a cell. -/
theorem toJson_keeps_rows (t : Table) (hplaces : (t.columns.map Column.ordinal).Nodup) :
    ∃ objects, t.toJson = .array (objects.map .object) ∧
      List.Forall₂ (fun row object => (¬t.Clashes → t.KeepsRow row object) ∧
        (t.Clashes → object.length < t.columns.length)) t.rows.toList objects := by
  refine ⟨t.rows.toList.map fun row => Json.sortMembers (t.members row), ?_, ?_⟩
  · rw [List.map_map]
    rfl
  · rw [List.forall₂_map_right_iff, List.forall₂_same]
    intro row hrow
    have hwidth := t.width_eq row (Array.mem_toList_iff.mp hrow)
    constructor
    · intro hclear
      exact keepsRow_of_nodup hwidth ((nodup_keys_iff hplaces).mpr hclear)
    · intro hclash
      apply length_sortMembers_lt_of_not_nodup hwidth
      rw [nodup_keys_iff hplaces]
      exact not_not_intro hclash

/-- Two columns without a name beside one that has a name. -/
def unnamedPair : Table where
  columns := [⟨Column.unnamed, 0, .integer⟩, ⟨Column.unnamed, 1, .string⟩, ⟨"price", 2, .integer⟩]
  rows := #[[.integer 1, .null, .integer 6], [.integer 2, .string "x", .null]]
  width_eq := by decide

theorem toJson_keeps_rows_unnamed :
    (unnamedPair.columns.map Column.ordinal).Nodup ∧ ¬unnamedPair.Clashes ∧
      ∃ objects, unnamedPair.toJson = .array (objects.map .object) ∧
        List.Forall₂ (fun row object => (¬unnamedPair.Clashes → unnamedPair.KeepsRow row object) ∧
          (unnamedPair.Clashes → object.length < unnamedPair.columns.length))
          unnamedPair.rows.toList objects :=
  ⟨by decide, by decide +kernel, toJson_keeps_rows unnamedPair (by decide)⟩

/-- A column whose label is the key of another one. -/
def takenKey : Table where
  columns := [⟨"a", 0, .integer⟩, ⟨"a", 1, .integer⟩, ⟨"a 0", 2, .integer⟩]
  rows := #[[.integer 1, .integer 2, .integer 3]]
  width_eq := by decide

theorem takenKey_loses_cell :
    (takenKey.columns.map Column.ordinal).Nodup ∧
      ∃ object, takenKey.toJson = .array [.object object] ∧
        object = [("a 0", .number (.integer 3)), ("a 1", .number (.integer 2))] ∧
        ¬takenKey.KeepsRow [.integer 1, .integer 2, .integer 3] object := by
  refine ⟨by decide, _, rfl, ?_, fun hkeeps => ?_⟩
  · cbv
  · have hlength := hkeeps.length
    revert hlength
    decide +kernel

end Quarry.Table
