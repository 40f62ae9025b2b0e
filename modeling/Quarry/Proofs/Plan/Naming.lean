import Mathlib.Data.List.Range
import Mathlib.Data.List.Forall2
import Mathlib.Data.List.Nodup
import Quarry.Proofs.Plan.Generation

/-!
# Columns by name

A name stands for the first column that has it, in any letter case. A declaration may repeat a name, and then
the later column is behind the earlier one: it can neither be read nor filled by its own name. Every other
column is found by its name.
-/

namespace Quarry

open Script

/-! ## 1. Definitions -/

/-- Among the first columns of a declaration, up to an index, there is one with the name. -/
def TakenBefore (decls : List ColumnDecl) (index : Nat) (name : String) : Prop :=
  ∃ d ∈ decls.take index, Text.sameName d.name name = true

instance (decls : List ColumnDecl) (index : Nat) (name : String) :
    Decidable (TakenBefore decls index name) :=
  inferInstanceAs (Decidable (∃ d ∈ decls.take index, Text.sameName d.name name = true))

/-- The column at an index is the one that scripts mean by its name. -/
structure Schema.Found (schema : Schema) (index : Nat) (c : BufferColumn) : Prop where
  /-- The name has the type of the column. -/
  type : (Scope.buffer schema).columnType? c.name = some c.type
  /-- The name is read as the column. -/
  reads : ∀ position, Operand.ofName (.buffer schema) c.name position = .ok (.column index)
  /-- A list of targets that has the name at some place has the column there. -/
  fills : ∀ (buffer : String) (names : List String) (position : Position) (targets : List Nat) (k : Nat),
    insertTargets buffer schema (some names) position = .ok targets → names[k]? = some c.name →
      targets[k]? = some index

/-! ## 2. First columns with a name -/

theorem position?_eq_some_iff {schema : Schema} {name : String} {index : Nat} :
    schema.position? name = some index ↔
      (∃ c, schema.columns[index]? = some c ∧ Text.sameName c.name name = true) ∧
        ∀ c ∈ schema.columns.take index, Text.sameName c.name name = false := by
  rw [Schema.position?, List.findIdx?_eq_some_iff_getElem]
  constructor
  · rintro ⟨hlt, hsame, hbefore⟩
    refine ⟨⟨_, List.getElem?_eq_getElem hlt, hsame⟩, fun c hc => ?_⟩
    obtain ⟨j, hj, rfl⟩ := List.mem_take_iff_getElem.mp hc
    exact Bool.not_eq_true _ ▸ hbefore j (by omega)
  · rintro ⟨⟨c, hc, hsame⟩, hbefore⟩
    obtain ⟨hlt, rfl⟩ := List.getElem?_eq_some_iff.mp hc
    refine ⟨hlt, hsame, fun j hj => ?_⟩
    rw [hbefore _ (List.mem_take_iff_getElem.mpr ⟨j, by omega, rfl⟩)]
    exact Bool.false_ne_true

-- The columns of a declaration have its names, in order.
theorem names_of_declareColumns {buffer : String} {decls : List ColumnDecl}
    {columns declared : List BufferColumn}
    (h : declareColumns buffer decls columns = .ok declared) :
    declared.map BufferColumn.name = columns.map BufferColumn.name ++ decls.map ColumnDecl.name := by
  induction decls generalizing columns with
  | nil =>
    cases h
    simp
  | cons d rest ih =>
    obtain ⟨type, _, _, hrest⟩ := declareColumns_cons h
    rw [ih hrest]
    simp

theorem names_of_declaredSchema {buffer : String} {decls : List ColumnDecl} {schema : Schema}
    (h : declaredSchema buffer decls = .ok schema) :
    schema.columns.map BufferColumn.name = decls.map ColumnDecl.name := by
  obtain ⟨columns, hcolumns, rfl⟩ := Except.map_eq_ok.mp h
  simpa using names_of_declareColumns hcolumns

-- What is taken before in the declaration is taken before in the schema.
theorem takenBefore_iff {buffer : String} {decls : List ColumnDecl} {schema : Schema}
    (h : declaredSchema buffer decls = .ok schema) {index : Nat} {name : String} :
    TakenBefore decls index name ↔
      ∃ c ∈ schema.columns.take index, Text.sameName c.name name = true := by
  have hnames : (decls.take index).map ColumnDecl.name =
      (schema.columns.take index).map BufferColumn.name := by
    rw [List.map_take, List.map_take, names_of_declaredSchema h]
  have hmap {α : Type} (f : α → String) (l : List α) :
      (∃ a ∈ l, Text.sameName (f a) name = true) ↔ ∃ n ∈ l.map f, Text.sameName n name = true := by
    simp
  rw [TakenBefore, hmap ColumnDecl.name, hmap BufferColumn.name, hnames]

theorem position?_iff_of_declaredSchema {buffer : String} {decls : List ColumnDecl} {schema : Schema}
    (h : declaredSchema buffer decls = .ok schema) {index : Nat} {c : BufferColumn}
    (hc : schema.columns[index]? = some c) :
    schema.position? c.name = some index ↔ ¬TakenBefore decls index c.name := by
  have hself : ∃ d, schema.columns[index]? = some d ∧ Text.sameName d.name c.name = true :=
    ⟨c, hc, Text.sameName_refl c.name⟩
  rw [position?_eq_some_iff, takenBefore_iff h]
  simp [hself]

/-! ## 3. Columns that are found -/

-- The targets of named columns are the columns that the names stand for.
theorem positions_of_nameTargets {buffer : String} {schema : Schema} {position : Position}
    {names : List String} {targets found : List Nat}
    (h : nameTargets buffer schema position names targets = .ok found) :
    ∃ indices, found = targets ++ indices ∧
      List.Forall₂ (fun name index => schema.position? name = some index) names indices := by
  induction names generalizing targets with
  | nil =>
    cases h
    exact ⟨[], (List.append_nil _).symm, .nil⟩
  | cons name rest ih =>
    obtain ⟨index, _, hindex, _, _, _, h⟩ := nameTargets_cons_eq_ok.mp h
    obtain ⟨indices, rfl, hrest⟩ := ih h
    exact ⟨index :: indices, List.append_cons .. ▸ rfl, .cons hindex hrest⟩

-- A name is read as the column that it stands for.
theorem ofName_of_position? {schema : Schema} {name : String} {index : Nat} (position : Position)
    (h : schema.position? name = some index) :
    Operand.ofName (.buffer schema) name position = .ok (.column index) := by
  simp only [Operand.ofName, h]

theorem Schema.found_of_position? {schema : Schema} {index : Nat} {c : BufferColumn}
    (hc : schema.columns[index]? = some c) (h : schema.position? c.name = some index) :
    schema.Found index c where
  type := by
    show (schema.position? c.name).bind (fun i => schema.columns[i]?.map BufferColumn.type) = _
    rw [h, Option.bind_some, hc]
    rfl
  reads position := ofName_of_position? position h
  fills buffer names position targets k htargets hk := by
    obtain ⟨indices, hindices, hall⟩ := positions_of_nameTargets htargets
    rw [List.nil_append] at hindices
    obtain ⟨hlength, hpositions⟩ := List.forall₂_iff_get.mp hall
    obtain ⟨hlt, hname⟩ := List.getElem?_eq_some_iff.mp hk
    have hlt' : k < indices.length := hlength ▸ hlt
    have hfound : schema.position? names[k] = some indices[k] := hpositions k hlt hlt'
    rw [hname, h] at hfound
    rw [hindices, List.getElem?_eq_getElem hlt', hfound]

/-- A column of a declared buffer is found by its name exactly if no earlier column of the declaration has
that name, in any letter case. Then scripts read and fill it by its name, and otherwise they read another
column. -/
theorem column_found_iff {buffer : String} {decls : List ColumnDecl} {schema : Schema}
    (h : declaredSchema buffer decls = .ok schema) {index : Nat} {c : BufferColumn}
    (hc : schema.columns[index]? = some c) :
    decls[index]?.map ColumnDecl.name = some c.name ∧
      (schema.position? c.name = some index ↔ ¬TakenBefore decls index c.name) ∧
      (¬TakenBefore decls index c.name → schema.Found index c) ∧
      (TakenBefore decls index c.name → ∃ other < index,
        ∀ position, Operand.ofName (.buffer schema) c.name position = .ok (.column other)) := by
  have hiff := position?_iff_of_declaredSchema h hc
  refine ⟨?_, hiff, fun hfree => Schema.found_of_position? hc (hiff.mpr hfree), fun htaken => ?_⟩
  · rw [← List.getElem?_map, ← names_of_declaredSchema h, List.getElem?_map, hc]
    rfl
  · -- The first column with the name comes before the index.
    obtain ⟨d, hd, hsame⟩ := (takenBefore_iff h).mp htaken
    obtain ⟨j, hj, rfl⟩ := List.mem_take_iff_getElem.mp hd
    have hsome : (schema.position? c.name).isSome := by
      rw [Schema.position?, List.findIdx?_isSome, List.any_eq_true]
      exact ⟨_, List.getElem_mem _, hsame⟩
    obtain ⟨other, hother⟩ := Option.isSome_iff_exists.mp hsome
    refine ⟨other, ?_, fun position => ofName_of_position? position hother⟩
    by_contra hnot
    have hbefore := (position?_eq_some_iff.mp hother).2 _
      (List.mem_take_iff_getElem.mpr ⟨j, by omega, rfl⟩)
    rw [hsame] at hbefore
    cases hbefore

/-- A name that is repeated in the other letter case, and one that is not. -/
def shadowed : List ColumnDecl :=
  [⟨"a", "int", false, ⟨1, 17⟩⟩, ⟨"A", "int", false, ⟨1, 24⟩⟩, ⟨"b", "int", true, ⟨1, 31⟩⟩]

theorem column_found_iff_unrepeated :
    let schema : Schema := ⟨[⟨"a", .integer, false⟩, ⟨"A", .integer, false⟩, ⟨"b", .integer, true⟩]⟩
    declaredSchema "t" shadowed = .ok schema ∧ schema.columns[2]? = some ⟨"b", .integer, true⟩ ∧
      ¬TakenBefore shadowed 2 "b" ∧ schema.Found 2 ⟨"b", .integer, true⟩ := by
  intro schema
  have h : declaredSchema "t" shadowed = .ok schema := by decide +kernel
  have hother : Text.sameName "a" "b" = false ∧ Text.sameName "A" "b" = false := by decide +kernel
  have hfree : ¬TakenBefore shadowed 2 "b" := by simpa [TakenBefore, shadowed] using hother
  obtain ⟨_, _, hfound, _⟩ :=
    column_found_iff h (show schema.columns[2]? = some ⟨"b", .integer, true⟩ from rfl)
  exact ⟨h, rfl, hfree, hfound hfree⟩

/-- The second column is declared, and its name is read as the first one. -/
theorem shadowed_unreachable :
    ∃ schema, declaredSchema "t" shadowed = .ok schema ∧
      schema.columns[1]? = some ⟨"A", .integer, false⟩ ∧ schema.position? "A" = some 0 ∧
      Operand.ofName (.buffer schema) "A" ⟨2, 8⟩ = .ok (.column 0) ∧
      insertTargets "t" schema (some ["A"]) ⟨2, 1⟩ = .ok [0] := by
  have hposition : (Schema.mk [⟨"a", .integer, false⟩, ⟨"A", .integer, false⟩,
      ⟨"b", .integer, true⟩]).position? "A" = some 0 := by decide +kernel
  refine ⟨⟨_⟩, by decide +kernel, rfl, hposition, ofName_of_position? _ hposition, ?_⟩
  show nameTargets _ _ _ ["A"] [] = _
  exact nameTargets_cons_eq_ok.mpr ⟨0, _, hposition, rfl, rfl, List.not_mem_nil, rfl⟩

end Quarry
