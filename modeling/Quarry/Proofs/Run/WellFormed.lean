import Quarry.Command.Response
import Quarry.Proofs.Run.Scripts

/-!
# Plans that need no checks

What a check of a script accepts has a plan, and the plan is well formed: everything that a run looks up
by name or index is there. So the errors and the fallbacks for what is missing never come up.
-/

namespace Quarry

open Script (DownloadKind)

/-! ## 1. Well-formed plans -/

/-- A plan in which everything that its steps refer to is there. -/
structure Plan.WellFormed (plan : Plan) : Prop where
  /-- A select has one operand for each of its columns. -/
  width : ∀ step ∈ plan, ∀ q ∈ step.selects, q.projections.length = q.columns.length
  /-- The columns of a select are numbered in order. -/
  ordinals : ∀ step ∈ plan, ∀ q ∈ step.selects,
    q.columns.map Column.ordinal = List.range q.columns.length
  /-- A url query has one column. -/
  urls : ∀ step ∈ plan, ∀ q ∈ step.selects, ∀ kind query options,
    q.source = .downloadEach kind query options → query.columns.length = 1
  /-- The columns that a select reads are those of the buffer that it scans. -/
  columns : ∀ before step after, plan = before ++ step :: after → ∀ q ∈ step.selects,
    ∀ o ∈ q.operands, ∀ i, .column i ∈ o.parts → ∃ name schema, q.source = .buffer name ∧
      (Plan.catalog before).find? name = some schema ∧ i < schema.columns.length
  /-- Only the rows of downloaded pages are picked from. -/
  picks : ∀ step ∈ plan, ∀ q ∈ step.selects, q.extractions ≠ [] → q.source.isPage
  /-- An insert fills columns of its buffer that are not the identity, each of them once, and one for
  each column of its select. -/
  targets : ∀ before buffer targets query after,
    plan = before ++ .insert buffer targets query :: after →
      ∃ schema, (Plan.catalog before).find? buffer = some schema ∧
        (∀ t ∈ targets, ∃ c, schema.columns[t]? = some c ∧ c.identity = false) ∧
        (∀ i, schema.identity? = some i → i ∉ targets) ∧ targets.Nodup ∧
        targets.length = query.columns.length
  /-- A buffer that is inserted into was created by an earlier step. -/
  created : ∀ before buffer targets query after,
    plan = before ++ .insert buffer targets query :: after →
      ∃ schema, .createBuffer buffer schema ∈ before
  /-- A buffer that is read was created by an earlier step. -/
  sources : ∀ before step after, plan = before ++ step :: after → ∀ q ∈ step.selects, ∀ name,
    q.source = .buffer name → ∃ schema, .createBuffer name schema ∈ before
  /-- No name is created twice. -/
  names : ((Plan.catalog plan).map Prod.fst).Nodup

-- What is in the catalog of steps was created by one of them.
theorem createBuffer_mem_of_find? {plan : Plan} {name : String} {schema : Schema}
    (h : (Plan.catalog plan).find? name = some schema) : .createBuffer name schema ∈ plan := by
  obtain ⟨first, rest, hcatalog, _⟩ := List.lookup_eq_some_iff.mp h
  -- Only a step that creates a buffer adds an entry.
  have hmem : (name, schema) ∈ Plan.catalog plan := by
    rw [hcatalog]
    exact List.mem_append_right _ List.mem_cons_self
  obtain ⟨step, hstep, hdeclares⟩ := List.mem_filterMap.mp hmem
  cases step with
  | createBuffer name' schema' =>
    cases hdeclares
    exact hstep
  | insert _ _ _ => cases hdeclares
  | select _ => cases hdeclares

-- The names that a plan declares after a catalog are new, each of them once.
theorem Plan.FitsAfter.names {catalog : Catalog} {plan : Plan} (h : Plan.FitsAfter catalog plan) :
    ((Plan.catalog plan).map Prod.fst).Nodup ∧
      ∀ p ∈ Plan.catalog plan, catalog.find? p.1 = none := by
  -- By induction on the steps: the names of the rest are new after the catalog and the first step.
  induction plan generalizing catalog with
  | nil => exact ⟨List.nodup_nil, fun p hp => absurd hp List.not_mem_nil⟩
  | cons step rest ih =>
    have hstep := h.first
    obtain ⟨hnodup, hnew⟩ := ih h.rest
    -- What is new after the step is new before it, and is not the buffer that the step creates.
    have hbefore : ∀ p ∈ Plan.catalog rest, catalog.find? p.1 = none ∧
        step.declares.toList.lookup p.1 = none := by
      intro p hp
      have hnone := hnew p hp
      unfold Catalog.find? at hnone ⊢
      rw [List.lookup_append] at hnone
      exact Option.or_eq_none_iff.mp hnone
    rw [Plan.catalog_cons]
    cases step with
    | createBuffer name schema =>
      refine ⟨List.nodup_cons.mpr ⟨?_, hnodup⟩, ?_⟩
      · intro hmem
        obtain ⟨p, hp, hname⟩ := List.mem_map.mp hmem
        have hnone := (hbefore p hp).2
        rw [hname] at hnone
        simp [Step.declares] at hnone
      · intro p hp
        rcases List.mem_cons.mp hp with rfl | hp
        · exact hstep.2.1
        · exact (hbefore p hp).1
    | insert _ _ _ => exact ⟨hnodup, fun p hp => (hbefore p hp).1⟩
    | select _ => exact ⟨hnodup, fun p hp => (hbefore p hp).1⟩

-- Targets that take columns can be filled.
theorem Schema.Takes.fillable {schema : Schema} {targets : List Nat} {columns : List Column}
    (h : schema.Takes targets columns) : schema.Fillable targets := by
  refine ⟨h.nodup, fun t ht => ?_⟩
  obtain ⟨i, hi⟩ := List.mem_iff_getElem?.mp ht
  obtain ⟨_, _, c, hc, hidentity, _⟩ := exists_getElem?_left h.accepts hi
  exact ⟨c, hc, hidentity⟩

/-- A plan whose steps fit is well formed. -/
theorem Plan.FitsAfter.wellFormed {plan : Plan} (h : Plan.FitsAfter [] plan) : plan.WellFormed := by
  have hselects : ∀ step ∈ plan, ∀ q ∈ step.selects, ∃ catalog, q.Fits catalog := by
    intro step hstep q hq
    obtain ⟨before, behind, rfl⟩ := List.append_of_mem hstep
    exact ⟨_, (h before step behind rfl).1 q hq⟩
  have hinsert : ∀ before buffer targets query behind,
      plan = before ++ .insert buffer targets query :: behind →
        ∃ schema, (Plan.catalog before).find? buffer = some schema ∧
          schema.Takes targets query.columns := by
    intro before buffer targets query behind hplan
    exact (h before _ behind hplan).2
  -- Each field is read off the step that it is about.
  refine {
    width := fun step hstep q hq => ?_
    ordinals := fun step hstep q hq => ?_
    urls := fun step hstep q hq => ?_
    columns := fun before step behind hplan q hq o ho i hi => ?_
    picks := fun step hstep q hq => ?_
    targets := fun before buffer targets query behind hplan => ?_
    created := fun before buffer targets query behind hplan => ?_
    sources := fun before step behind hplan q hq name hname => ?_
    names := h.names.1 }
  · obtain ⟨_, hfits⟩ := hselects step hstep q hq
    exact hfits.length_eq
  · obtain ⟨_, hfits⟩ := hselects step hstep q hq
    exact hfits.ordinals
  · obtain ⟨_, hfits⟩ := hselects step hstep q hq
    exact hfits.urls
  · exact ((h before step behind hplan).1 q hq).column ho hi
  · obtain ⟨_, hfits⟩ := hselects step hstep q hq
    exact hfits.picks
  · obtain ⟨schema, hfind, htakes⟩ := hinsert before buffer targets query behind hplan
    exact ⟨schema, hfind, htakes.fillable.2, fun i hi => htakes.fillable.identity_notMem hi,
      htakes.nodup, htakes.accepts.length_eq⟩
  · obtain ⟨schema, hfind, _⟩ := hinsert before buffer targets query behind hplan
    exact ⟨schema, createBuffer_mem_of_find? hfind⟩
  · have hknown := ((h before step behind hplan).1 q hq).known name hname
    obtain ⟨schema, hfind⟩ := Option.isSome_iff_exists.mp hknown
    exact ⟨schema, createBuffer_mem_of_find? hfind⟩

/-! ## 2. Runs without missing things -/

/-- A run of a plan in which nothing is ever missing. -/
structure Plan.RunsSafely (plan : Plan) (s : Setting) : Prop where
  /-- The run does not end for a row of the wrong width or for the name of a buffer. -/
  error : ∀ e, (Plan.run s plan).error = some e → (∀ w, e ≠ .width w) ∧
    (∀ w, e ≠ .store (.width w)) ∧ (∀ name, e ≠ .store (.unknownBuffer name)) ∧
    ∀ name, e ≠ .store (.duplicateBuffer name)
  /-- The targets of an insert are columns of its buffer, and its rows are as wide as its schema. -/
  inserts : ∀ before buffer targets query after j,
    plan = before ++ .insert buffer targets query :: after → Plan.Reaches s before j →
      ∃ b, j.store.get? buffer = some b ∧ (∀ t ∈ targets, t < b.schema.columns.length) ∧
        ∀ row ∈ b.rows, row.length = b.schema.columns.length
  /-- Where an operand reads a column, there is a stored row that has the column. -/
  columns : ∀ before step after j, plan = before ++ step :: after → Plan.Reaches s before j →
    ∀ q ∈ step.selects, ∀ o ∈ q.operands, ∀ i, .column i ∈ o.parts →
      ∀ x c, q.Offers s.world j.store j.wires x c → ∃ cells, c = .stored cells ∧ i < cells.length

-- An error of a select that fits is none of those for something that is missing.
theorem SelectStep.Fails.of_known {w : World} {store : Store} {wires : Nat} {q : SelectStep}
    {e : RunError} (h : q.Fails w store wires e)
    (hknown : ∀ p ∈ q.selects, ∀ name, p.source = .buffer name → ∃ b, store.get? name = some b) :
    e.isOutside ∨ ∃ error, e = .operator error := by
  cases h with
  | outside h => exact Or.inl h
  | operator _ _ _ _ => exact Or.inr ⟨_, rfl⟩
  | unknown hp hsource hnone =>
    obtain ⟨b, hb⟩ := hknown _ hp _ hsource
    rw [hb] at hnone
    cases hnone

/-- In the runs of a script nothing is ever missing. -/
theorem runsSafely {source : String} {plan : Plan} (h : compile source = .ok plan) (s : Setting) :
    plan.RunsSafely s := by
  have hfits := fitsAfter_of_compile h
  refine ⟨fun e he => ?_, ?_, ?_⟩
  · obtain ⟨before, step, behind, j, hplan, hreach, hstep, hfails⟩ := fails_of_error h he
    have hmatches := matches_of_reaches h hplan hreach
    -- Every buffer that a step reads is in the catalog, and so in the store.
    have hknown : ∀ p ∈ step.selects, ∀ name, p.source = .buffer name →
        ∃ b, j.store.get? name = some b := by
      intro p hp name hname
      obtain ⟨schema, hfind⟩ := Option.isSome_iff_exists.mp ((hstep.1 p hp).known name hname)
      obtain ⟨b, hb, _⟩ := hmatches.get?_eq_some hfind
      exact ⟨b, hb⟩
    -- That leaves errors from outside, of operators, and of conversions.
    have hkinds : e.isOutside ∨ (∃ error, e = .operator error) ∨
        ∃ buffer column text target, e = .store (.conversion buffer column text target) := by
      cases hfails with
      | ofSelect hq => exact (hq.of_known hknown).imp_right Or.inl
      | ofQuery hq => exact (hq.of_known hknown).imp_right Or.inl
      | ofValue _ _ _ _ _ _ => exact Or.inr (Or.inr ⟨_, _, _, _, rfl⟩)
    rcases hkinds with houtside | ⟨_, rfl⟩ | ⟨_, _, _, _, rfl⟩
    · refine ⟨?_, ?_, ?_, ?_⟩ <;> rintro _ rfl <;> cases houtside
    · exact ⟨nofun, nofun, nofun, nofun⟩
    · exact ⟨nofun, nofun, nofun, nofun⟩
  · intro before buffer targets query behind j hplan hreach
    have hmatches := matches_of_reaches h hplan hreach
    obtain ⟨schema, hfind, hrange, _⟩ := hfits.wellFormed.targets before buffer targets query behind
      hplan
    obtain ⟨b, hb, rfl, hsound⟩ := hmatches.get?_eq_some hfind
    refine ⟨b, hb, fun t ht => ?_, fun row hrow => (hsound.rows row hrow).length_eq⟩
    obtain ⟨c, hc, _⟩ := hrange t ht
    exact (List.getElem?_eq_some_iff.mp hc).1
  · intro before step behind j hplan hreach q hq o ho i hi x c hoffers
    have hmatches := matches_of_reaches h hplan hreach
    obtain ⟨name, schema, hsource, hfind, hlt⟩ := hfits.wellFormed.columns before step behind hplan
      q hq o ho i hi
    obtain ⟨b, hb, rfl, hsound⟩ := hmatches.get?_eq_some hfind
    obtain ⟨cells, hcells, rfl⟩ := hoffers.eq_stored hsource hb
    refine ⟨cells, rfl, ?_⟩
    rw [(hsound.rows cells hcells).length_eq]
    exact hlt

/-! ## 3. Checks -/

/-- A check of a script agrees with its compilation: what it accepts has a plan, and what it refuses is
refused for the same reason. Plans are well formed, and in their runs nothing is ever missing, for any
answers, settings and order of moves. -/
theorem check_suffices (source : String) :
    (∀ program, check source = .ok program →
      ∃ plan, generate program = .ok plan ∧ compile source = .ok plan) ∧
    (∀ e, check source = .error e ↔ compile source = .error e) ∧
    ((Command.respondCheck (.ok source)).exit = 0 ↔ ∃ plan, compile source = .ok plan) ∧
    (∀ e, compile source = .error e →
      Command.respondCheck (.ok source) = .failure "" e.message) ∧
    ∀ plan, compile source = .ok plan → plan.WellFormed ∧ ∀ s, plan.RunsSafely s := by
  -- Analysis that succeeds leaves nothing for the generator to refuse.
  have hgenerate : ∀ program, check source = .ok program →
      ∃ plan, generate program = .ok plan ∧ compile source = .ok plan := by
    intro settled hcheck
    have hsettle := hcheck
    unfold check at hsettle
    obtain ⟨program, _, hsettle⟩ := Except.bind_eq_ok.mp hsettle
    obtain ⟨plan, hplan, _⟩ := generate_of_settle (Except.mapError_eq_ok.mp hsettle)
    refine ⟨plan, hplan, ?_⟩
    unfold compile
    rw [hcheck]
    show (generate settled).mapError ScriptError.semantic = _
    rw [hplan]
    rfl
  -- So compiling fails exactly where the check does.
  have hsame : ∀ e, check source = .error e ↔ compile source = .error e := by
    intro e
    constructor
    · intro hcheck
      unfold compile
      rw [hcheck]
      rfl
    · intro hcompile
      cases hcheck : check source with
      | error e' =>
        unfold compile at hcompile
        rw [hcheck] at hcompile
        cases hcompile
        rfl
      | ok program =>
        obtain ⟨plan, _, hplan⟩ := hgenerate program hcheck
        rw [hplan] at hcompile
        cases hcompile
  -- The command of a check prints what it would print for a compilation.
  have hrespond : ∀ e, compile source = .error e →
      Command.respondCheck (.ok source) = .failure "" e.message := by
    intro e he
    unfold Command.respondCheck
    simp only [(hsame e).mpr he]
  refine ⟨hgenerate, hsame, ⟨fun hexit => ?_, ?_⟩, hrespond, fun plan h =>
    ⟨(fitsAfter_of_compile h).wellFormed, runsSafely h⟩⟩
  · cases hcompile : compile source with
    | ok plan => exact ⟨plan, rfl⟩
    | error e =>
      rw [hrespond e hcompile] at hexit
      cases hexit
  · rintro ⟨plan, hplan⟩
    unfold Command.respondCheck
    cases hcheck : check source with
    | ok program => simp only [hcheck]
    | error e =>
      rw [(hsame e).mp hcheck] at hplan
      cases hplan

/-- A script that a check accepts, with an identity that its insert leaves out. -/
theorem check_suffices_identity :
    ∃ plan, compile "create buffer t(id identity, a int)\ninsert into t select 1" = .ok plan ∧
      plan.WellFormed ∧ ∀ s, plan.RunsSafely s :=
  Except.exists_ok_of_isSome (by decide +kernel) fun plan hplan => by
    obtain ⟨_, _, _, _, hruns⟩ := check_suffices
      "create buffer t(id identity, a int)\ninsert into t select 1"
    exact hruns plan hplan

end Quarry
