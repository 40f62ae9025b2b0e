import Quarry.Proofs.Buffer.Cells
import Quarry.Proofs.Run.Scripts

/-!
# Copies of buffers

The buffers of a run are regular: cells have the types of their columns, and identities count the rows.
So what a select reads from one buffer can be inserted into another one with columns of the same types,
and is the same there. A buffer can be copied to itself, as all of its rows are read before one is
inserted.
-/

namespace Quarry

/-! ## 1. Regular stores -/

/-- A store whose buffers were declared and are regular. -/
def Store.Regular (s : Store) : Prop :=
  ∀ name b, s.get? name = some b → b.schema.Declarable ∧ b.Regular

namespace Store.Regular

variable {s s' : Store}

theorem empty : Store.empty.Regular := fun _ _ hb => nomatch hb

theorem create (h : s.Regular) {name : String} {schema : Schema} (hschema : schema.Declarable)
    (hcreate : s.create name schema = .ok s') : s'.Regular := by
  unfold Store.create at hcreate
  cases hnone : s.get? name with
  | some b =>
    rw [hnone] at hcreate
    cases hcreate
  | none =>
    rw [hnone] at hcreate
    cases hcreate
    intro other b hb
    rw [Store.get?_concat hnone] at hb
    by_cases hother : other = name
    · rw [if_pos hother] at hb
      cases hb
      exact ⟨hschema, Buffer.regular_new name schema⟩
    · rw [if_neg hother] at hb
      exact h other b hb

-- Rows that are inserted one by one keep a store regular, if the targets are columns.
theorem insertAll (h : s.Regular) {name : String} {b : Buffer} {targets : List Nat}
    {rows : List (List Value)} (hb : s.get? name = some b)
    (htargets : ∀ t ∈ targets, t < b.schema.columns.length)
    (hinsert : s.insertAll name targets rows = .ok s') : s'.Regular := by
  obtain ⟨hschema, hregular⟩ := h name b hb
  obtain ⟨new, hnew, hget⟩ := Store.insertAll_appends hb htargets hinsert
  intro other c hc
  rw [hget other] at hc
  split at hc
  · cases hc
    exact ⟨hschema, hnew.regular hregular hschema⟩
  · exact h other c hc

end Store.Regular

section Performing

variable {catalog : Catalog} {w : World} {l l' : Ledger}

/-- A step that fits keeps the buffers regular. -/
theorem Step.Fits.regular {step : Step} (h : step.Fits catalog) (hmatches : l.store.Matches catalog)
    (hregular : l.store.Regular) (hperform : step.perform w l = .ok l') : l'.store.Regular := by
  cases step with
  | createBuffer name schema =>
    rw [Step.perform_createBuffer] at hperform
    obtain ⟨store, hcreate, hl⟩ := Except.bind_eq_ok.mp hperform
    cases hl
    exact hregular.create h.2.2 (Except.mapError_eq_ok.mp hcreate)
  | insert buffer targets query =>
    obtain ⟨schema, hfind, htakes⟩ := h.2
    obtain ⟨b, hb, rfl, _⟩ := hmatches.get?_eq_some hfind
    rw [Step.perform_insert] at hperform
    obtain ⟨p, _, hperform⟩ := Except.bind_eq_ok.mp hperform
    obtain ⟨store, hinsert, hl⟩ := Except.bind_eq_ok.mp hperform
    cases hl
    exact hregular.insertAll hb htakes.lt_length (Except.mapError_eq_ok.mp hinsert)
  | select query =>
    rw [Step.perform_select] at hperform
    obtain ⟨p, _, hl⟩ := Except.bind_eq_ok.mp hperform
    cases hl
    exact hregular

theorem Plan.FitsAfter.regular_of_perform {plan : Plan} (h : Plan.FitsAfter catalog plan)
    (hmatches : l.store.Matches catalog) (hregular : l.store.Regular)
    (hperform : plan.perform w l = (l', none)) : l'.store.Regular := by
  -- By induction on the steps: each of them meets a regular store with the buffers that it fits.
  induction plan generalizing catalog l with
  | nil =>
    cases hperform
    exact hregular
  | cons step rest ih =>
    rw [Plan.perform] at hperform
    rcases h.first.perform (w := w) hmatches with ⟨l₁, hok, hnext⟩ | ⟨e, herror, _⟩
    · rw [hok] at hperform
      exact ih h.rest hnext (h.first.regular hmatches hregular hok) hperform
    · rw [herror] at hperform
      cases hperform

end Performing

/-- The buffers of a run of a script are regular. -/
theorem regular_of_reaches {source : String} {plan before after : Plan} {s : Setting} {j : Journal}
    (h : compile source = .ok plan) (hplan : plan = before ++ after)
    (hreach : Plan.Reaches s before j) : j.store.Regular := by
  subst hplan
  have hfits := (fitsAfter_of_compile h).before
  exact hfits.regular_of_perform Store.Matches.empty Store.Regular.empty (hreach.perform hfits.even)

/-! ## 2. Copies -/

/-- The step that inserts the plain columns of a buffer, in order, as those of another one. -/
def Step.copying (origin target : String) (a b : Schema) (columns : List Column) : Step :=
  .insert target b.insertable ⟨columns, a.insertable.map .column, .buffer origin, none⟩

-- A row of a buffer gives its plain cells.
theorem row?_insertable (x : Extractor) {schema : Schema} {row : List Value}
    (hwidth : row.length = schema.columns.length) :
    (Candidate.stored row).row? x none (schema.insertable.map .column) =
      .ok (some (schema.plain row)) := by
  have hcells : (schema.insertable.map Operand.column).mapM (Operand.eval x (.stored row)) =
      .ok (schema.plain row) := by
    refine Except.mapM_eq_ok.mpr (List.forall₂_map_left_iff.mpr ?_)
    refine (schema.getElem?_plain hwidth).imp fun i v hv => ?_
    show Except.ok (row[i]?.getD .null) = Except.ok v
    rw [hv]
    rfl
  unfold Candidate.row?
  show ((schema.insertable.map Operand.column).mapM (Operand.eval x (.stored row)) >>= fun cells =>
    Except.ok (some cells)) = _
  rw [hcells]
  rfl

-- The rows of such a select are those that the buffer has before the statement.
theorem rows_insertable {w : World} {store : Store} {wires : Nat} {origin : String} {a : Buffer}
    {columns : List Column} (ha : store.get? origin = some a)
    (hwidth : ∀ row ∈ a.rows, row.length = a.schema.columns.length) :
    SelectStep.rows w store wires
        ⟨columns, a.schema.insertable.map .column, .buffer origin, none⟩ =
      .ok (a.rows.toList.map a.schema.plain, wires) := by
  -- Columns need no extractor.
  have hextractions : (a.schema.insertable.map Operand.column).flatMap Operand.extractions = [] := by
    refine List.flatMap_eq_nil_iff.mpr fun o ho => ?_
    obtain ⟨i, _, rfl⟩ := List.mem_map.mp ho
    rfl
  have hprepare : Extractor.prepare
      ⟨columns, a.schema.insertable.map .column, .buffer origin, none⟩ = .ok .empty := by
    unfold Extractor.prepare SelectStep.extractions
    rw [hextractions]
    rfl
  have hcandidates : (a.rows.toList.map Candidate.stored).mapM
      (Candidate.row? .empty none (a.schema.insertable.map .column)) =
        .ok ((a.rows.toList.map a.schema.plain).map some) := by
    rw [Except.mapM_eq_ok, List.map_map, List.forall₂_map_left_iff, List.forall₂_map_right_iff,
      List.forall₂_same]
    exact fun row hrow => row?_insertable _ (hwidth row (Array.mem_toList_iff.mp hrow))
  have hrows : rowsOf .empty none (a.schema.insertable.map .column)
      [.ok (a.rows.toList.map Candidate.stored)] = .ok (a.rows.toList.map a.schema.plain) := by
    rw [rowsOf, List.mapM_cons, List.mapM_nil]
    show (((a.rows.toList.map Candidate.stored).mapM
        (Candidate.row? .empty none (a.schema.insertable.map .column)) >>= fun rows =>
          Except.ok [rows]) >>= fun groups => Except.ok groups.flatten.reduceOption) = _
    rw [hcandidates]
    show Except.ok [(a.rows.toList.map a.schema.plain).map some].flatten.reduceOption = _
    rw [List.flatten_singleton, List.reduceOption, List.filterMap_map, Function.id_comp,
      List.filterMap_some]
  unfold SelectStep.rows SourceStep.groups Store.get
  rw [hprepare, ha]
  show (rowsOf .empty none (a.schema.insertable.map .column)
      [.ok (a.rows.toList.map Candidate.stored)] >>= fun rows => Except.ok (rows, wires)) = _
  rw [hrows]
  rfl

namespace Buffer

-- A row that is the next one after a first row was inserted comes one later.
theorem Repeats.succ {b : Buffer} {first row cells : List Value} {k : Nat}
    (h : Repeats { b with rows := b.rows.push first } k cells row) : b.Repeats (k + 1) cells row := by
  refine ⟨h.width, h.cells, fun index hindex => (h.numbered index hindex).trans ?_⟩
  unfold nextIdentity
  rw [Array.size_push, Int64.ofNat_add (b.rows.size + 1) 1, Int64.ofNat_add k 1, Int64.add_assoc,
    Int64.add_comm (Int64.ofNat 1)]

end Buffer

/-- Rows of the types of the plain columns of a buffer are all inserted, and none of them changes. -/
theorem Store.insertAll_plain {store : Store} {target : String} {b : Buffer}
    (hb : store.get? target = some b) {rows : List (List Value)}
    (hrows : ∀ cells ∈ rows, List.Forall₂ Value.IsOf cells b.schema.plainTypes) :
    ∃ store', ∃ new : List (List Value),
      store.insertAll target b.schema.insertable rows = .ok store' ∧
      (∀ other, store'.get? other =
        if other = target then some { b with rows := b.rows ++ new.toArray } else store.get? other) ∧
      new.length = rows.length ∧
      ∀ k cells, rows[k]? = some cells → ∃ row, new[k]? = some row ∧ b.Repeats k cells row := by
  -- By induction on the rows: the next row meets the buffer with those before it.
  induction rows generalizing store b with
  | nil =>
    refine ⟨store, [], rfl, fun other => ?_, rfl, fun k cells hk => nomatch hk⟩
    by_cases hother : other = target
    · rw [if_pos hother, hother, hb]
      show some b = some { b with rows := b.rows ++ #[] }
      rw [Array.append_empty]
    · rw [if_neg hother]
  | cons cells rows ih =>
    obtain ⟨first, identity, hinsert, hfirst⟩ := Buffer.insert_plain (hrows cells List.mem_cons_self)
    have hget : ∀ other, (store.replace { b with rows := b.rows.push first }).get? other =
        if other = target then some { b with rows := b.rows.push first } else store.get? other :=
      fun other => get?_replace hb (show b.name = target from name_of_get? hb)
    obtain ⟨store', new, hrest, hfound, hlength, hnew⟩ :=
      ih ((hget target).trans (if_pos rfl)) fun row hrow => hrows row (List.mem_cons_of_mem _ hrow)
    refine ⟨store', first :: new, ?_, fun other => ?_, congrArg Nat.succ hlength, ?_⟩
    · have hone : store.insert target b.schema.insertable cells =
          .ok (store.replace { b with rows := b.rows.push first }, identity) := by
        refine (Call.apply_insert hb b.schema.insertable cells).trans ?_
        rw [hinsert]
        rfl
      unfold insertAll at hrest ⊢
      rw [List.foldlM_cons, hone]
      exact hrest
    · rw [hfound other]
      by_cases hother : other = target
      · rw [if_pos hother, if_pos hother]
        congr 2
        apply Array.toList_inj.mp
        simp
      · rw [if_neg hother, if_neg hother, hget other, if_neg hother]
    · intro k row hk
      cases k with
      | zero =>
        cases hk
        exact ⟨first, rfl, hfirst⟩
      | succ k =>
        obtain ⟨stored, hstored, hrepeats⟩ := hnew k row hk
        exact ⟨stored, hstored, hrepeats.succ⟩

-- The plain cells of the rows of a regular buffer have the types of its plain columns.
theorem Buffer.Regular.isOf_plain {b : Buffer} (h : b.Regular) {row : List Value} (hrow : row ∈ b.rows) :
    List.Forall₂ Value.IsOf (b.schema.plain row) b.schema.plainTypes := by
  refine b.schema.forall₂_plain (List.forall₂_map_right_iff.mpr ?_)
  refine List.forall₂_iff_get.mpr ⟨h.width row hrow, fun i hi hcolumn => ?_⟩
  obtain ⟨v, hv, hof⟩ := h.typed row hrow i _ (List.getElem?_eq_getElem hcolumn)
  rw [List.getElem?_eq_getElem hi] at hv
  cases hv
  exact hof

/-- Wherever a run of a script is, a buffer can be copied to any buffer whose columns apart from the
identity have the same types in the same order, itself included. The step succeeds. It appends the rows
that the first buffer had, in order and with the same cells, and they are numbered on from the counter
of the second one. No other buffer changes. -/
theorem copies_of_compile {source : String} {plan before after : Plan} (h : compile source = .ok plan)
    (hplan : plan = before ++ after) {s : Setting} {j : Journal} (hreach : Plan.Reaches s before j)
    {origin target : String} {a b : Buffer} (ha : j.store.get? origin = some a)
    (hb : j.store.get? target = some b) (htypes : a.schema.plainTypes = b.schema.plainTypes)
    {columns : List Column} (hcolumns : columns.length = a.schema.insertable.length) :
    ∃ j', ∃ new : List (List Value),
      ((Step.copying origin target a.schema b.schema columns).run s).on j = (.ok (), j') ∧
      (∀ other, j'.store.get? other =
        if other = target then some { b with rows := b.rows ++ new.toArray } else j.store.get? other) ∧
      new.length = a.rows.size ∧
      ∀ k old, a.rows[k]? = some old →
        ∃ row, new[k]? = some row ∧ b.Repeats k (a.schema.plain old) row := by
  have hregular := (regular_of_reaches h hplan hreach origin a ha).2
  have hrows : ∀ cells ∈ a.rows.toList.map a.schema.plain,
      List.Forall₂ Value.IsOf cells b.schema.plainTypes := by
    intro cells hcells
    obtain ⟨old, hold, rfl⟩ := List.mem_map.mp hcells
    exact htypes ▸ hregular.isOf_plain (Array.mem_toList_iff.mp hold)
  obtain ⟨store', new, hinsert, hfound, hlength, hnew⟩ := Store.insertAll_plain hb hrows
  have hperform : (Step.copying origin target a.schema b.schema columns).perform s.world j.ledger =
      .ok { j.ledger with store := store' } := by
    unfold Step.copying
    rw [Step.perform_insert]
    show (SelectStep.rows s.world j.store j.wires _ >>= _) = _
    rw [rows_insertable ha hregular.width]
    show ((j.store.insertAll target b.schema.insertable _).mapError RunError.store >>= _) = _
    rw [hinsert]
    rfl
  have heven : (Step.copying origin target a.schema b.schema columns).Even := by
    intro q hq
    rw [Step.copying, Step.selects, SelectStep.selects, SourceStep.selects, List.mem_singleton] at hq
    rw [hq, List.length_map, hcolumns]
  -- The run does what the sequential reading does.
  obtain ⟨r, j', hrun, hledger, _⟩ := Step.run_perform s j heven
  rw [hperform] at hledger
  obtain ⟨u, rfl, hafter⟩ := Except.map_eq_ok.mp hledger
  refine ⟨j', new, hrun, ?_, ?_, fun k old hold => ?_⟩
  · have hstore : j'.store = store' := congrArg Ledger.store hafter
    rw [hstore]
    exact hfound
  · rw [hlength, List.length_map, Array.length_toList]
  · refine hnew k _ ?_
    rw [List.getElem?_map, Array.getElem?_toList, hold]
    rfl

/-- A buffer with an identity and an empty text that a script copies to itself. -/
theorem copies_own_rows :
    let schema : Schema := ⟨[⟨"id", .integer, true⟩, ⟨"s", .string, false⟩]⟩
    let t : Buffer := ⟨"t", schema, #[[.integer 1, .string ""]]⟩
    let copying := Step.copying "t" "t" schema schema [⟨"s", 0, .string⟩]
    ∃ before, compile ("create buffer t(id identity, s string)\ninsert into t select ''\n" ++
        "insert into t select s from t") = .ok (before ++ [copying]) ∧
      ∀ s, ∃ j, Plan.Reaches s before j ∧ j.store.get? "t" = some t ∧
        ∃ j', ∃ new : List (List Value), (copying.run s).on j = (.ok (), j') ∧
          j'.store.get? "t" = some { t with rows := t.rows ++ new.toArray } ∧ new.length = 1 ∧
          ∃ row, new[0]? = some row ∧ t.Repeats 0 [.string ""] row := by
  intro schema t copying
  let before : Plan := [.createBuffer "t" schema,
    .insert "t" [1] ⟨[⟨Column.unnamed, 0, .string⟩], [.literal (.string "")], .single, none⟩]
  have hcompile : compile ("create buffer t(id identity, s string)\ninsert into t select ''\n" ++
      "insert into t select s from t") = .ok (before ++ [copying]) := by decide +kernel
  refine ⟨before, hcompile, fun s => ?_⟩
  have hreach : Plan.Reaches s before { Journal.start with store := ⟨[t]⟩ } := rfl
  have hget : Store.get? ⟨[t]⟩ "t" = some t := rfl
  have hwidth : ([⟨"s", 0, .string⟩] : List Column).length = schema.insertable.length := rfl
  obtain ⟨j', new, hrun, hfound, hlength, hnew⟩ :=
    copies_of_compile hcompile rfl hreach hget hget rfl hwidth
  exact ⟨_, hreach, hget, j', new, hrun, hfound "t", hlength, hnew 0 _ rfl⟩

end Quarry
