import Quarry.Proofs.Plan.Generation
import Quarry.Proofs.Run.Failures
import Quarry.Proofs.Value.Typing

/-!
# Buffers of a run

At each point of a run the buffers are those that the plan created so far, and every row that they hold
has a value of the declared type in each column. A row that does not come to be stored has a value that
cannot be converted.
-/

namespace Quarry

/-! ## 1. Rows that a schema holds -/

/-- A row with a value of its type in each column of a schema. -/
def Schema.Holds (schema : Schema) (row : List Value) : Prop :=
  List.Forall₂ (fun c v => Value.Fits False c.type v) schema.columns row

theorem Schema.Holds.length_eq {schema : Schema} {row : List Value} (h : schema.Holds row) :
    row.length = schema.columns.length := (List.Forall₂.length_eq h).symm

-- Lists stay related if an element is replaced by one that is related to its partner.
theorem forall₂_set {α β : Type} {R : α → β → Prop} {l : List α} {row : List β}
    (h : List.Forall₂ R l row) {i : Nat} {a : α} {b : β} (ha : l[i]? = some a) (hab : R a b) :
    List.Forall₂ R l (row.set i b) := by
  induction h generalizing i with
  | nil => exact .nil
  | cons hhead htail ih =>
    cases i with
    | zero =>
      cases ha
      exact .cons hab htail
    | succ i => exact .cons hhead (ih ha)

-- Putting a value of its type into a column keeps the row.
theorem Schema.Holds.set {schema : Schema} {row : List Value} (h : schema.Holds row) {i : Nat}
    {c : BufferColumn} {v : Value} (hc : schema.columns[i]? = some c)
    (hv : v.Fits False c.type) : schema.Holds (row.set i v) := forall₂_set h hc hv

theorem Schema.holds_nulls (schema : Schema) :
    schema.Holds (List.replicate schema.columns.length .null) := by
  unfold Schema.Holds
  induction schema.columns with
  | nil => exact .nil
  | cons c columns ih => exact .cons (.null _) ih

-- The value of a column has its type.
theorem Schema.Holds.getD {schema : Schema} {row : List Value} (h : schema.Holds row) {i : Nat}
    {c : BufferColumn} (hc : schema.columns[i]? = some c) :
    (row[i]?.getD .null).Fits False c.type := by
  unfold Schema.Holds at h
  generalize schema.columns = columns at h hc
  induction h generalizing i with
  | nil => cases hc
  | cons hhead htail ih =>
    cases i with
    | zero =>
      cases hc
      exact hhead
    | succ i => exact ih hc

/-! ## 2. Buffers -/

/-- A buffer whose rows its schema holds. -/
structure Buffer.Sound (b : Buffer) : Prop where
  declarable : b.schema.Declarable
  rows : ∀ row ∈ b.rows, b.schema.Holds row

namespace Buffer

variable {b : Buffer}

-- Values that are put into a row are converted. If one cannot be, that is the error.
theorem place_cases (hb : b.Sound) {row : List Value} (hrow : b.schema.Holds row) (target : Nat)
    (value : Value) :
    (∃ row', b.place row target value = .ok row' ∧ b.schema.Holds row') ∨
      ∃ c, b.schema.columns[target]? = some c ∧ value.convert? c.type = none ∧
        b.place row target value = .error (.conversion b.name c.name value.text c.type) := by
  unfold place
  -- A target that is no column is left out.
  cases hc : b.schema.columns[target]? with
  | none => exact Or.inl ⟨row, rfl, hrow⟩
  | some c =>
    cases hv : value.convert? c.type with
    | none => exact Or.inr ⟨c, rfl, hv, by simp only [hv]⟩
    | some v =>
      refine Or.inl ⟨row.set target v, by simp only [hv], hrow.set hc ?_⟩
      exact convert_fits (hb.declarable.typed c (List.mem_of_getElem? hc)) hv

theorem placeAll_cases (hb : b.Sound) {row : List Value} (hrow : b.schema.Holds row)
    (pairs : List (Nat × Value)) :
    (∃ row', b.placeAll pairs row = .ok row' ∧ b.schema.Holds row') ∨
      ∃ p ∈ pairs, ∃ c, b.schema.columns[p.1]? = some c ∧ p.2.convert? c.type = none ∧
        b.placeAll pairs row = .error (.conversion b.name c.name p.2.text c.type) := by
  -- By induction on the values: the row so far is held by the schema.
  induction pairs generalizing row with
  | nil => exact Or.inl ⟨row, rfl, hrow⟩
  | cons p pairs ih =>
    obtain ⟨target, value⟩ := p
    unfold placeAll
    rcases place_cases hb hrow target value with ⟨row', hplace, hrow'⟩ | ⟨c, hc, hv, hplace⟩
    · rw [hplace]
      rcases ih hrow' with hok | ⟨p, hp, herror⟩
      · exact Or.inl hok
      · exact Or.inr ⟨p, List.mem_cons_of_mem _ hp, herror⟩
    · rw [hplace]
      exact Or.inr ⟨(target, value), List.mem_cons_self, c, hc, hv, rfl⟩

-- An insert appends a row that the schema holds, unless a value cannot be converted.
theorem insert_cases (hb : b.Sound) {targets : List Nat} {values : List Value}
    (hlength : targets.length = values.length) :
    (∃ row identity, b.insert targets values = .ok ({ b with rows := b.rows.push row }, identity) ∧
        b.schema.Holds row) ∨
      ∃ p ∈ targets.zip values, ∃ c, b.schema.columns[p.1]? = some c ∧
        p.2.convert? c.type = none ∧
        b.insert targets values = .error (.conversion b.name c.name p.2.text c.type) := by
  unfold insert buildRow
  rw [if_neg (fun hne => hne hlength)]
  -- The row starts with nulls, and the identity is put in at the end.
  rcases placeAll_cases hb b.schema.holds_nulls (targets.zip values) with
    ⟨row, hplace, hrow⟩ | ⟨p, hp, c, hc, hv, hplace⟩
  · refine Or.inl ?_
    simp only [hplace]
    cases hidentity : b.schema.identity? with
    | none => exact ⟨row, _, rfl, hrow⟩
    | some index =>
      refine ⟨row.set index (.integer b.nextIdentity), _, rfl, ?_⟩
      obtain ⟨hlt, hid, _⟩ := List.findIdx?_eq_some_iff_getElem.mp hidentity
      -- Identities were declared as integers.
      have hinteger := hb.declarable.identity _ (List.getElem_mem hlt) hid
      refine hrow.set (List.getElem?_eq_getElem hlt) ?_
      rw [hinteger]
      exact .integer _
  · refine Or.inr ⟨p, hp, c, hc, hv, ?_⟩
    simp only [hplace]
    rfl

end Buffer

/-! ## 3. Stores -/

namespace Store

variable {s : Store} {b b' : Buffer} {name other : String}

-- A buffer is found under its own name, and it is one of those of the store.
theorem name_of_get? (h : s.get? name = some b) : b.name = name := by
  unfold Store.get? at h
  have hname := List.find?_some h
  exact eq_of_beq hname

theorem mem_of_get? (h : s.get? name = some b) : b ∈ s.buffers := List.mem_of_find?_eq_some h

-- What was put in the place of a buffer is found under its name, and nothing else changes.
theorem get?_replace (h : s.get? name = some b) (hname : b'.name = name) :
    (s.replace b').get? other = if other = name then some b' else s.get? other := by
  -- Replacing keeps names, so that a search meets the same places before and after.
  have hsame : ((fun c : Buffer => c.name == other) ∘
      fun c => if c.name == b'.name then b' else c) = fun c : Buffer => c.name == other := by
    funext c
    simp only [Function.comp_apply]
    split
    next heq => rw [eq_of_beq heq]
    next => rfl
  unfold Store.get? Store.replace
  rw [List.find?_map, hsame]
  by_cases hother : other = name
  · rw [if_pos hother, hother]
    unfold Store.get? at h
    rw [h, Option.map_some, if_pos]
    rw [name_of_get? h, hname]
    exact beq_self_eq_true name
  · rw [if_neg hother]
    cases hc : s.buffers.find? (·.name == other) with
    | none => rfl
    | some c =>
      have hcname : c.name = other := name_of_get? hc
      rw [Option.map_some, if_neg]
      rw [hcname, hname, beq_iff_eq]
      exact hother

-- A buffer with a new name is found under it, once it is put behind the others.
theorem get?_concat (h : s.get? b.name = none) :
    (Store.mk (s.buffers ++ [b])).get? other = if other = b.name then some b else s.get? other := by
  unfold Store.get? at h ⊢
  rw [List.find?_append]
  by_cases hother : other = b.name
  · rw [if_pos hother, hother, h, Option.none_or]
    exact List.find?_cons_of_pos (beq_self_eq_true b.name)
  · have hlast : [b].find? (·.name == other) = none :=
      List.find?_cons_of_neg fun heq => hother (eq_of_beq heq).symm
    rw [if_neg hother, hlast, Option.or_none]

end Store

/-- A store with the buffers of a catalog, in which every row fits. -/
structure Store.Matches (catalog : Catalog) (store : Store) : Prop where
  schemas : ∀ name, (store.get? name).map Buffer.schema = catalog.find? name
  sound : ∀ b ∈ store.buffers, b.Sound

namespace Store.Matches

variable {catalog : Catalog} {store : Store}

theorem empty : Store.Matches [] .empty where
  schemas _ := rfl
  sound _ hb := absurd hb List.not_mem_nil

-- A buffer that is in the catalog is in the store.
theorem get?_eq_some (h : store.Matches catalog) {name : String} {schema : Schema}
    (hfind : catalog.find? name = some schema) :
    ∃ b, store.get? name = some b ∧ b.schema = schema ∧ b.Sound := by
  obtain ⟨b, hb, hschema⟩ := Option.map_eq_some_iff.mp ((h.schemas name).trans hfind)
  exact ⟨b, hb, hschema, h.sound b (Store.mem_of_get? hb)⟩

-- A buffer with a new name can be created.
theorem create (h : store.Matches catalog) {name : String} {schema : Schema}
    (hnew : catalog.find? name = none) (hschema : schema.Declarable) :
    ∃ store', store.create name schema = .ok store' ∧
      store'.Matches (catalog ++ [(name, schema)]) := by
  have hnone : store.get? name = none := Option.map_eq_none_iff.mp ((h.schemas name).trans hnew)
  refine ⟨⟨store.buffers ++ [⟨name, schema, #[]⟩]⟩, ?_, ?_, ?_⟩
  · unfold Store.create
    rw [hnone]
  · -- The new buffer is the last one, and its name is looked up there if no other has it.
    intro other
    have hold := h.schemas other
    unfold Store.get? Catalog.find? at hold ⊢
    rw [List.find?_append, List.lookup_append, ← hold]
    cases store.buffers.find? (·.name == other) with
    | some b => rfl
    | none =>
      simp only [Option.none_or, Option.map_none, List.find?_cons, List.lookup_cons]
      have hcomm : (other == name) = (name == other) := by
        rw [Bool.eq_iff_iff, beq_iff_eq, beq_iff_eq]
        exact eq_comm
      rw [hcomm]
      cases name == other <;> rfl
  · intro b hb
    rcases List.mem_append.mp hb with hb | hb
    · exact h.sound b hb
    · -- It is empty.
      rw [List.mem_singleton.mp hb]
      exact ⟨hschema, fun row hrow => by simp at hrow⟩

-- A row is stored in a buffer, unless a value of it cannot be converted.
theorem insert (h : store.Matches catalog) {buffer : String} {schema : Schema}
    (hfind : catalog.find? buffer = some schema) {targets : List Nat} {row : List Value}
    (hlength : targets.length = row.length) :
    (∃ p, store.insert buffer targets row = .ok p ∧ p.1.Matches catalog) ∨
      ∃ p ∈ targets.zip row, ∃ c, schema.columns[p.1]? = some c ∧ p.2.convert? c.type = none ∧
        store.insert buffer targets row = .error (.conversion buffer c.name p.2.text c.type) := by
  obtain ⟨b, hb, rfl, hsound⟩ := h.get?_eq_some hfind
  have hinsert : store.insert buffer targets row =
      (b.insert targets row >>= fun p => Except.ok (store.replace p.1, p.2)) := by
    unfold Store.insert Store.get
    rw [hb]
    rfl
  rw [hinsert]
  rcases Buffer.insert_cases hsound hlength with ⟨new, identity, hok, hnew⟩ | ⟨p, hp, c, hc, hv, he⟩
  · refine Or.inl ⟨_, by rw [hok]; rfl, ?_, ?_⟩
    · -- The buffer keeps its name and schema, so that the catalog still says what there is.
      intro other
      show ((store.replace { b with rows := b.rows.push new }).get? other).map Buffer.schema = _
      have hname : ({ b with rows := b.rows.push new } : Buffer).name = buffer := by
        rw [← Store.name_of_get? hb]
      rw [Store.get?_replace hb hname]
      by_cases hother : other = buffer
      · rw [if_pos hother, hother, hfind]
        rfl
      · rw [if_neg hother]
        exact h.schemas other
    · intro c hc
      obtain ⟨d, hd, rfl⟩ := List.mem_map.mp hc
      split
      · refine ⟨hsound.declarable, fun row hrow => ?_⟩
        -- Its rows are those of before and the new one.
        rcases Array.mem_push.mp hrow with hrow | rfl
        · exact hsound.rows row hrow
        · exact hnew
      · exact h.sound d hd
  · refine Or.inr ⟨p, hp, c, hc, hv, ?_⟩
    rw [he, Store.name_of_get? hb]
    rfl

-- Rows are stored in a buffer, unless a value of one cannot be converted.
theorem insertAll (h : store.Matches catalog) {buffer : String} {schema : Schema}
    (hfind : catalog.find? buffer = some schema) {targets : List Nat} {rows : List (List Value)}
    (hlength : ∀ row ∈ rows, targets.length = row.length) :
    (∃ store', store.insertAll buffer targets rows = .ok store' ∧ store'.Matches catalog) ∨
      ∃ row ∈ rows, ∃ p ∈ targets.zip row, ∃ c, schema.columns[p.1]? = some c ∧
        p.2.convert? c.type = none ∧ store.insertAll buffer targets rows =
          .error (.conversion buffer c.name p.2.text c.type) := by
  unfold Store.insertAll
  -- By induction on the rows: each of them is stored in a store that still matches the catalog.
  induction rows generalizing store with
  | nil => exact Or.inl ⟨store, rfl, h⟩
  | cons row rows ih =>
    rw [List.foldlM_cons]
    rcases h.insert hfind (hlength row List.mem_cons_self) with
      ⟨p, hok, hp⟩ | ⟨p, hp, c, hc, hv, he⟩
    · rw [hok]
      rcases ih hp fun r hr => hlength r (List.mem_cons_of_mem _ hr) with hall | ⟨r, hr, herror⟩
      · exact Or.inl hall
      · exact Or.inr ⟨r, List.mem_cons_of_mem _ hr, herror⟩
    · rw [he]
      exact Or.inr ⟨row, List.mem_cons_self, p, hp, c, hc, hv, rfl⟩

end Store.Matches

/-! ## 4. Steps -/

-- Rows of a select that fits are as wide as its columns.
theorem SelectStep.Fits.row_length {catalog : Catalog} {q : SelectStep} (h : q.Fits catalog)
    {w : World} {store : Store} {wires wires' : Nat} {rows : List (List Value)}
    (hrows : q.rows w store wires = .ok (rows, wires')) {row : List Value} (hrow : row ∈ rows) :
    row.length = q.columns.length := by
  obtain ⟨x, c, _, hall⟩ := SelectStep.exists_offered hrows hrow
  rw [← hall.length_eq, h.length_eq]

/-- Why a step that fits does not succeed: its select fails, or a value of a row of its select cannot
be converted. -/
inductive Step.Fails (w : World) (l : Ledger) (catalog : Catalog) : Step → RunError → Prop
  | ofSelect {query : SelectStep} {e : RunError} (h : query.Fails w l.store l.wires e) :
      Fails w l catalog (.select query) e
  | ofQuery {buffer : String} {targets : List Nat} {query : SelectStep} {e : RunError}
      (h : query.Fails w l.store l.wires e) : Fails w l catalog (.insert buffer targets query) e
  | ofValue {buffer : String} {schema : Schema} {targets : List Nat} {query : SelectStep}
      {rows : List (List Value)} {wires : Nat} {row : List Value} {p : Nat × Value}
      {c : BufferColumn} (hfind : catalog.find? buffer = some schema)
      (hrows : query.rows w l.store l.wires = .ok (rows, wires)) (hrow : row ∈ rows)
      (hp : p ∈ targets.zip row) (hc : schema.columns[p.1]? = some c)
      (hv : p.2.convert? c.type = none) :
      Fails w l catalog (.insert buffer targets query)
        (.store (.conversion buffer c.name p.2.text c.type))

/-- A step that fits leaves a store with the buffers that it and earlier steps declare, unless it
fails for one of the reasons that such steps have. -/
theorem Step.Fits.perform {catalog : Catalog} {step : Step} (h : step.Fits catalog) {w : World}
    {l : Ledger} (hstore : l.store.Matches catalog) :
    (∃ l', step.perform w l = .ok l' ∧ l'.store.Matches (catalog ++ step.declares.toList)) ∨
      ∃ e, step.perform w l = .error e ∧ Step.Fails w l catalog step e := by
  obtain ⟨hselects, hstep⟩ := h
  -- Creating never fails, since the name is new. The other steps fail with their select, and an
  -- insert also with a value that its column does not take.
  cases step with
  | createBuffer name schema =>
    obtain ⟨store', hcreate, hmatches⟩ := hstore.create hstep.1 hstep.2
    refine Or.inl ⟨{ l with store := store' }, ?_, hmatches⟩
    rw [Step.perform_createBuffer, hcreate]
    rfl
  | insert buffer targets query =>
    obtain ⟨schema, hfind, htakes⟩ := hstep
    have hfits := hselects query (SelectStep.self_mem_selects query)
    cases hrows : query.rows w l.store l.wires with
    | error e =>
      refine Or.inr ⟨e, ?_, .ofQuery (SelectStep.rows_eq_error query hrows)⟩
      rw [Step.perform_insert, hrows]
      rfl
    | ok p =>
      obtain ⟨rows, wires⟩ := p
      -- Rows are as wide as the columns of the select, of which there are as many as targets.
      have hlength : ∀ row ∈ rows, targets.length = row.length := fun row hrow => by
        rw [hfits.row_length hrows hrow, htakes.accepts.length_eq]
      rcases hstore.insertAll hfind hlength with
        ⟨store', hinsert, hmatches⟩ | ⟨row, hrow, p, hp, c, hc, hv, he⟩
      · refine Or.inl ⟨{ l with store := store', wires }, ?_, ?_⟩
        · rw [Step.perform_insert, hrows]
          show ((l.store.insertAll buffer targets rows).mapError RunError.store >>= _) = _
          rw [hinsert]
          rfl
        · rw [show (Step.insert buffer targets query).declares.toList = [] from rfl,
            List.append_nil]
          exact hmatches
      · refine Or.inr ⟨_, ?_, .ofValue hfind hrows hrow hp hc hv⟩
        rw [Step.perform_insert, hrows]
        show ((l.store.insertAll buffer targets rows).mapError RunError.store >>= _) = _
        rw [he]
        rfl
  | select query =>
    cases hrows : query.rows w l.store l.wires with
    | error e =>
      refine Or.inr ⟨e, ?_, .ofSelect (SelectStep.rows_eq_error query hrows)⟩
      rw [Step.perform_select, hrows]
      rfl
    | ok p =>
      refine Or.inl ⟨{ l with sheets := l.sheets ++ [(query.columns, p.1)], wires := p.2 }, ?_, ?_⟩
      · rw [Step.perform_select, hrows]
        rfl
      · rw [show (Step.select query).declares.toList = [] from rfl, List.append_nil]
        exact hstore

/-! ## 5. Plans -/

/-- A plan whose steps fit leaves a store with the buffers that they declare. -/
theorem Plan.FitsAfter.matches_of_perform {catalog : Catalog} {plan : Plan}
    (h : Plan.FitsAfter catalog plan) {w : World} {l l' : Ledger}
    (hstore : l.store.Matches catalog) (hperform : plan.perform w l = (l', none)) :
    l'.store.Matches (catalog ++ Plan.catalog plan) := by
  -- By induction on the steps: the catalog grows by what each step declares, and the store with it.
  induction plan generalizing catalog l with
  | nil =>
    cases hperform
    rw [Plan.catalog, List.filterMap_nil, List.append_nil]
    exact hstore
  | cons step rest ih =>
    rw [Plan.perform] at hperform
    rcases h.first.perform hstore with ⟨l₁, hok, hmatches⟩ | ⟨e, herror, _⟩
    · rw [hok] at hperform
      rw [Plan.catalog_cons, ← List.append_assoc]
      exact ih h.rest hmatches hperform
    · rw [herror] at hperform
      cases hperform

-- Where a plan ends early, some step of it has the error after those before it were performed.
theorem Plan.exists_step_of_error {plan : Plan} {w : World} {l l' : Ledger} {e : RunError}
    (h : plan.perform w l = (l', some e)) :
    ∃ before step after, plan = before ++ step :: after ∧
      Plan.perform w before l = (l', none) ∧ step.perform w l' = .error e := by
  -- By induction on the steps up to the one that fails.
  induction plan generalizing l with
  | nil => cases h
  | cons step rest ih =>
    rw [Plan.perform] at h
    cases hstep : step.perform w l with
    | error e' =>
      rw [hstep] at h
      cases h
      exact ⟨[], step, rest, rfl, rfl, hstep⟩
    | ok l₁ =>
      rw [hstep] at h
      obtain ⟨before, p, behind, rfl, hbefore, hp⟩ := ih h
      refine ⟨step :: before, p, behind, rfl, ?_, hp⟩
      rw [Plan.perform, hstep]
      exact hbefore

end Quarry
