import Quarry.Proofs.Plan.Typing

/-!
# Plans of settled scripts

A script that analysis settles has a plan, and the plan fits the buffers that it declares. The
generator looks up again what analysis looked up before it, in the same catalog, so that it finds the
same.
-/

namespace Quarry

open Script

/-! ## 1. Plans that fit -/

/-- A select that fits the buffers declared before it. -/
structure SelectStep.Fits (catalog : Catalog) (q : SelectStep) : Prop where
  known : ∀ name, q.source = .buffer name → (catalog.find? name).isSome
  types : q.projections.map (Operand.type? (q.source.scope catalog)) =
    q.columns.map fun c => some c.type
  filter : ∀ condition, q.filter = some condition →
    ∃ t, condition.type? (q.source.scope catalog) = some t
  ordinals : q.columns.map Column.ordinal = List.range q.columns.length
  picks : q.extractions ≠ [] → q.source.isPage
  urls : ∀ kind query options, q.source = .downloadEach kind query options →
    query.columns.length = 1

/-- A schema that a declaration can give: types are those of columns, and identities count in
integers. -/
structure Schema.Declarable (schema : Schema) : Prop where
  typed : ∀ c ∈ schema.columns, c.type ≠ .null
  identity : ∀ c ∈ schema.columns, c.identity = true → c.type = .integer

/-- Targets that take the columns of a select: each of them once, and none the identity. -/
structure Schema.Takes (schema : Schema) (targets : List Nat) (columns : List Column) : Prop where
  nodup : targets.Nodup
  accepts : List.Forall₂ (fun target column => ∃ c, schema.columns[target]? = some c ∧
    c.identity = false ∧ c.type.accepts column.type = true) targets columns

/-- A step that fits the buffers declared before it. -/
def Step.Fits (catalog : Catalog) (step : Step) : Prop :=
  (∀ q ∈ step.selects, q.Fits catalog) ∧
    match step with
    | .createBuffer name schema => catalog.find? name = none ∧ schema.Declarable
    | .insert buffer targets query =>
      ∃ schema, catalog.find? buffer = some schema ∧ schema.Takes targets query.columns
    | .select _ => True

/-- A plan each step of which fits the buffers declared before it: those of the catalog and those of
earlier steps. -/
def Plan.FitsAfter (catalog : Catalog) (plan : Plan) : Prop :=
  ∀ before step after, plan = before ++ step :: after → step.Fits (catalog ++ Plan.catalog before)

theorem SelectStep.Fits.length_eq {catalog : Catalog} {q : SelectStep} (h : q.Fits catalog) :
    q.projections.length = q.columns.length := by
  -- The lists of types are equal, and so are their lengths.
  have hlength := congrArg List.length h.types
  simpa only [List.length_map] using hlength

-- The projections of a select that fits have the types of its columns.
theorem SelectStep.Fits.type?_projection {catalog : Catalog} {q : SelectStep} (h : q.Fits catalog)
    {k : Nat} {o : Operand} {column : Column} (ho : q.projections[k]? = some o)
    (hcolumn : q.columns[k]? = some column) :
    o.type? (q.source.scope catalog) = some column.type := by
  have htypes := congrArg (fun l => l[k]?) h.types
  simp only [List.getElem?_map, ho, hcolumn, Option.map_some] at htypes
  exact Option.some.inj htypes

-- The operands of a select that fits have types.
theorem SelectStep.Fits.exists_type? {catalog : Catalog} {q : SelectStep} (h : q.Fits catalog)
    {o : Operand} (ho : o ∈ q.operands) : ∃ t, o.type? (q.source.scope catalog) = some t := by
  rcases List.mem_append.mp ho with ho | ho
  · have hmem := List.mem_map_of_mem (f := Operand.type? (q.source.scope catalog)) ho
    rw [h.types] at hmem
    obtain ⟨c, _, hc⟩ := List.mem_map.mp hmem
    exact ⟨c.type, hc.symm⟩
  · exact h.filter o (Option.mem_toList.mp ho)

-- What a select that fits reads is within the buffer that it scans.
theorem SelectStep.Fits.column {catalog : Catalog} {q : SelectStep} (h : q.Fits catalog)
    {o : Operand} (ho : o ∈ q.operands) {i : Nat} (hi : .column i ∈ o.parts) :
    ∃ name schema, q.source = .buffer name ∧ catalog.find? name = some schema ∧
      i < schema.columns.length := by
  obtain ⟨t, ht⟩ := h.exists_type? ho
  -- The scope is that of a buffer, which rules out the other sources.
  obtain ⟨schema, hscope, hlt⟩ := column_of_type? ht hi
  cases hsource : q.source with
  | single =>
    rw [hsource] at hscope
    cases hscope
  | buffer name =>
    rw [hsource, SourceStep.scope] at hscope
    obtain ⟨schema', hfind⟩ := Option.isSome_iff_exists.mp (h.known name hsource)
    rw [hfind] at hscope
    cases hscope
    exact ⟨name, schema, rfl, hfind, hlt⟩
  | download kind url options =>
    rw [hsource] at hscope
    cases kind <;> cases hscope
  | downloadEach kind query options =>
    rw [hsource] at hscope
    cases kind <;> cases hscope

-- A step that fits can come before a plan that fits what it declares.
theorem Plan.FitsAfter.cons {catalog : Catalog} {step : Step} {plan : Plan}
    (hstep : step.Fits catalog)
    (hplan : Plan.FitsAfter (catalog ++ step.declares.toList) plan) :
    Plan.FitsAfter catalog (step :: plan) := by
  intro before p behind hsplit
  -- A split of the plan is before its first step, or a split of the rest.
  cases before with
  | nil =>
    cases hsplit
    rw [Plan.catalog, List.filterMap_nil, List.append_nil]
    exact hstep
  | cons first before =>
    obtain ⟨rfl, htail⟩ := List.cons.inj hsplit
    rw [Plan.catalog_cons, ← List.append_assoc]
    exact hplan before p behind htail

-- The steps after the first step of a plan that fits fit what it declares.
theorem Plan.FitsAfter.rest {catalog : Catalog} {step : Step} {plan : Plan}
    (h : Plan.FitsAfter catalog (step :: plan)) :
    Plan.FitsAfter (catalog ++ step.declares.toList) plan := by
  rintro before p behind rfl
  have hp := h (step :: before) p behind rfl
  rwa [Plan.catalog_cons, ← List.append_assoc] at hp

-- The first step of a plan that fits fits.
theorem Plan.FitsAfter.first {catalog : Catalog} {step : Step} {plan : Plan}
    (h : Plan.FitsAfter catalog (step :: plan)) : step.Fits catalog := by
  have hfits := h [] step plan rfl
  rwa [Plan.catalog, List.filterMap_nil, List.append_nil] at hfits

-- The steps before a step of a plan that fits fit too.
theorem Plan.FitsAfter.before {catalog : Catalog} {before behind : Plan}
    (h : Plan.FitsAfter catalog (before ++ behind)) : Plan.FitsAfter catalog before := by
  rintro first step rest rfl
  refine h first step (rest ++ behind) ?_
  rw [List.append_assoc, List.cons_append]

/-! ## 2. Selects -/

-- The columns of a projection have operands of their types.
theorem projectionOperands_of_columns {scope : Scope} {p : Projection}
    {columns : List (String × ValueType)} (h : projectionColumns scope p = .ok columns) :
    ∃ os, projectionOperands scope p = .ok os ∧
      os.map (Operand.type? scope) = columns.map (fun c => some c.2) ∧
      (p.picks = [] → os.flatMap Operand.extractions = []) := by
  -- The fields of a page or an image have the types that their scope gives them.
  have hfields : ∀ scope : Scope, (scope.fields.map Operand.field).map (Operand.type? scope) =
      (scope.fields.map fun f => (f.name, f.type)).map fun c => some c.2 := by
    intro scope
    rw [List.map_map, List.map_map]
    refine List.map_congr_left fun f hf => ?_
    show (if f ∈ scope.fields then some f.type else none) = some f.type
    rw [if_pos hf]
  have hnone : ∀ fields : List PageField,
      (fields.map Operand.field).flatMap Operand.extractions = [] := by
    intro fields
    rw [List.flatMap_map]
    exact List.flatMap_eq_nil_iff.mpr fun f _ => rfl
  -- A star stands for all columns of the scope, and an item for one expression.
  cases p with
  | star position =>
    cases scope with
    | empty | json => cases h
    | buffer schema =>
      cases h
      refine ⟨_, rfl, ?_, fun _ => ?_⟩
      · refine List.ext_getElem ?_ fun i hl hr => ?_
        · -- The columns of a star are numbered as they stand in the schema.
          simp only [List.length_map, List.length_range]
        · have hi : i < schema.columns.length := by
            simpa only [List.length_map, List.length_range] using hl
          simp only [List.getElem_map, List.getElem_range]
          show schema.columns[i]?.map BufferColumn.type = _
          rw [List.getElem?_eq_getElem hi]
          rfl
      · rw [List.flatMap_map]
        exact List.flatMap_eq_nil_iff.mpr fun i _ => rfl
    | page | image =>
      cases h
      exact ⟨_, rfl, hfields _, fun _ => hnone _⟩
  | item expr label =>
    obtain ⟨t, ht, h⟩ := Except.bind_eq_ok.mp h
    cases h
    obtain ⟨o, ho, hot, hpicks⟩ := ofExpr_of_infer expr ht
    refine ⟨[o], ?_, ?_, fun hnil => ?_⟩
    · show (Operand.ofExpr scope expr >>= fun o => pure [o]) = _
      rw [ho]
      rfl
    · show [o.type? scope] = [some t]
      rw [hot]
    · show o.extractions ++ [] = []
      rw [hpicks hnil]
      rfl

-- The same for all projections of a select, part by part.
theorem projections_of_columns {scope : Scope} {projections : List Projection}
    {columns : List (List (String × ValueType))}
    (h : projections.mapM (projectionColumns scope) = .ok columns) :
    ∃ os, projections.mapM (projectionOperands scope) = .ok os ∧
      os.flatten.map (Operand.type? scope) = columns.flatten.map (fun c => some c.2) ∧
      (projections.flatMap Projection.picks = [] → os.flatten.flatMap Operand.extractions = []) := by
  induction projections generalizing columns with
  | nil =>
    cases h
    exact ⟨[], rfl, rfl, fun _ => rfl⟩
  | cons p projections ih =>
    rw [List.mapM_cons] at h
    obtain ⟨c, hc, h⟩ := Except.bind_eq_ok.mp h
    obtain ⟨cs, hcs, h⟩ := Except.bind_eq_ok.mp h
    cases h
    obtain ⟨o, ho, hot, hopicks⟩ := projectionOperands_of_columns hc
    obtain ⟨os, hos, host, hospicks⟩ := ih hcs
    refine ⟨o :: os, ?_, ?_, fun hnil => ?_⟩
    · rw [List.mapM_cons, ho, hos]
      rfl
    · rw [List.flatten_cons, List.map_append, hot, host, List.flatten_cons, List.map_append]
    · rw [List.flatMap_cons] at hnil
      obtain ⟨h₁, h₂⟩ := List.append_eq_nil_iff.mp hnil
      rw [List.flatten_cons, List.flatMap_append, hopicks h₁, hospicks h₂]
      rfl

-- Columns are numbered in order and have the types of their projections.
theorem selectColumns_eq_ok {scope : Scope} {projections : List Projection}
    {columns : List Column} (h : selectColumns scope projections = .ok columns) :
    ∃ parts, projections.mapM (projectionColumns scope) = .ok parts ∧
      columns.map (fun c => some c.type) = parts.flatten.map (fun c => some c.2) ∧
      columns.map Column.ordinal = List.range columns.length := by
  obtain ⟨parts, hparts, h⟩ := Except.bind_eq_ok.mp h
  cases h
  refine ⟨parts, hparts, ?_, ?_⟩
  · refine List.ext_getElem ?_ fun i hl hr => ?_
    · simp only [List.length_map, List.length_mapIdx]
    · simp only [List.getElem_map, List.getElem_mapIdx]
  · refine List.ext_getElem ?_ fun i hl hr => ?_
    · simp only [List.length_map, List.length_range]
    · simp only [List.getElem_map, List.getElem_mapIdx, List.getElem_range]

-- What a source that was settled reads is the scope of its step.
theorem scope_of_settled {catalog : Catalog} {options : FetchOptions} {source : Source Settled}
    {scope : Scope} {step : SourceStep} (hscope : Scope.ofSource catalog source = .ok scope)
    (hstep : SourceStep.ofSource catalog options source = .ok step) :
    step.scope catalog = scope ∧ (scope = .page → step.isPage) ∧
      ∀ name, step = .buffer name → (catalog.find? name).isSome := by
  -- The scope of a step is read off its source, which names the same buffer or the same kind of
  -- download as the settled one.
  cases source with
  | nothing =>
    cases hscope
    cases hstep
    exact ⟨rfl, fun h => (nomatch h), fun _ h => (nomatch h)⟩
  | buffer name position =>
    cases hstep
    unfold Scope.ofSource at hscope
    cases hschema : catalog.find? name with
    | none =>
      simp only [hschema] at hscope
      cases hscope
    | some schema =>
      simp only [hschema] at hscope
      cases hscope
      refine ⟨?_, fun h => (nomatch h), ?_⟩
      · rw [SourceStep.scope, hschema]
        rfl
      · rintro _ ⟨⟩
        rw [hschema]
        rfl
  | download kind url hints position =>
    cases hstep
    cases kind <;> cases hscope <;>
      exact ⟨rfl, fun h => by cases h <;> rfl, fun _ h => (nomatch h)⟩
  | downloadEach kind urls hints position =>
    unfold SourceStep.ofSource at hstep
    obtain ⟨query, _, hstep⟩ := Except.bind_eq_ok.mp hstep
    cases hstep
    cases kind <;> cases hscope <;>
      exact ⟨rfl, fun h => by cases h <;> rfl, fun _ h => (nomatch h)⟩

/-- Picks are refused where there is no page to pick from. -/
def checkPicks (scope : Scope) (projections : List Projection) (filter : Option Expr) :
    Except CompileError Unit :=
  if scope = .page then .ok ()
  else
    match projections.flatMap Projection.picks ++ (filter.map Expr.picks).getD [] with
    | pick :: _ => .error ⟨pick, .pickWithoutDocument⟩
    | [] => .ok ()

/-- A condition needs a type, whichever it is. -/
def checkFilter (scope : Scope) : Option Expr → Except CompileError Unit
  | none => .ok ()
  | some condition => condition.infer scope >>= fun _ => .ok ()

-- The steps of settling a select, one after the other.
theorem settle_eq (catalog : Catalog) (projections : List Projection) (source : Source Unit)
    (filter : Option Expr) (hints : List Hint) (position : Position) (note : Unit) :
    Select.settle catalog ⟨projections, source, filter, hints, position, note⟩ = (do
      let source ← source.settle catalog
      let scope ← Scope.ofSource catalog source
      let (threads, js) ← settleHints (downloadHints source ++ hints)
      let (nodes, kept) := splitFilter scope filter
      let _ ← checkPicks scope projections kept
      let columns ← selectColumns scope projections
      let _ ← checkFilter scope kept
      return ⟨projections, source, kept, hints, position, ⟨columns, threads, js, nodes⟩⟩) := by
  unfold Select.settle
  refine bind_congr fun source => bind_congr fun scope => bind_congr fun ⟨threads, js⟩ => ?_
  obtain ⟨nodes, kept⟩ := splitFilter scope filter
  -- What follows the check of a condition follows its type.
  have hfilter : ∀ (condition : Expr) (k : Unit → Except CompileError (Select Settled)),
      checkFilter scope (some condition) >>= k = condition.infer scope >>= fun _ => k () := by
    intro condition k
    rw [checkFilter, bind_assoc]
    rfl
  -- The check for picks comes before the rest, which is the same for every scope.
  cases kept with
  | none =>
    by_cases hpage : scope = .page
    · subst hpage
      rfl
    · simp only [checkPicks, ne_eq, hpage, not_false_eq_true, if_true]
      cases projections.flatMap Projection.picks ++ _ <;> rfl
  | some condition =>
    simp only [hfilter]
    by_cases hpage : scope = .page
    · subst hpage
      rfl
    · simp only [checkPicks, ne_eq, hpage, not_false_eq_true, if_true]
      cases projections.flatMap Projection.picks ++ _ <;> rfl

theorem checkPicks_eq_ok {scope : Scope} {projections : List Projection} {filter : Option Expr} :
    checkPicks scope projections filter = .ok () ↔ (scope ≠ .page →
      projections.flatMap Projection.picks ++ (filter.map Expr.picks).getD [] = []) := by
  unfold checkPicks
  by_cases hpage : scope = .page
  · simp [hpage]
  · cases projections.flatMap Projection.picks ++ (filter.map Expr.picks).getD [] <;> simp [hpage]

theorem checkFilter_eq_ok {scope : Scope} {filter : Option Expr} :
    checkFilter scope filter = .ok () ↔
      ∀ condition, filter = some condition → ∃ t, condition.infer scope = .ok t := by
  cases filter with
  | none => simp [checkFilter]
  | some condition => simp [checkFilter, Except.bind_eq_ok]

/-- What a select is once it is settled: each step of settling it has a result. -/
theorem settle_eq_ok {catalog : Catalog} {projections : List Projection} {source : Source Unit}
    {filter : Option Expr} {hints : List Hint} {position : Position} {note : Unit}
    {settled : Select Settled} :
    Select.settle catalog ⟨projections, source, filter, hints, position, note⟩ = .ok settled ↔
      ∃ source' scope threads js columns nodes kept,
        source.settle catalog = .ok source' ∧ Scope.ofSource catalog source' = .ok scope ∧
        settleHints (downloadHints source' ++ hints) = .ok (threads, js) ∧
        splitFilter scope filter = (nodes, kept) ∧
        (scope ≠ .page →
          projections.flatMap Projection.picks ++ (kept.map Expr.picks).getD [] = []) ∧
        selectColumns scope projections = .ok columns ∧
        (∀ condition, kept = some condition → ∃ t, condition.infer scope = .ok t) ∧
        settled = ⟨projections, source', kept, hints, position, ⟨columns, threads, js, nodes⟩⟩ := by
  rw [settle_eq]
  constructor
  · intro h
    obtain ⟨source', hsource, h⟩ := Except.bind_eq_ok.mp h
    obtain ⟨scope, hscope, h⟩ := Except.bind_eq_ok.mp h
    obtain ⟨⟨threads, js⟩, hhints, h⟩ := Except.bind_eq_ok.mp h
    obtain ⟨_, hpicks, h⟩ := Except.bind_eq_ok.mp h
    obtain ⟨columns, hcolumns, h⟩ := Except.bind_eq_ok.mp h
    obtain ⟨_, hfilter, h⟩ := Except.bind_eq_ok.mp h
    exact ⟨source', scope, threads, js, columns, _, _, hsource, hscope, hhints, rfl,
      checkPicks_eq_ok.mp hpicks, hcolumns, checkFilter_eq_ok.mp hfilter, (Except.ok.inj h).symm⟩
  · rintro ⟨source', scope, threads, js, columns, nodes, kept, hsource, hscope, hhints, hsplit, hpicks,
      hcolumns, hfilter, rfl⟩
    refine Except.bind_eq_ok.mpr ⟨source', hsource, Except.bind_eq_ok.mpr ⟨scope, hscope,
      Except.bind_eq_ok.mpr ⟨(threads, js), hhints, ?_⟩⟩⟩
    rw [hsplit]
    exact Except.bind_eq_ok.mpr ⟨(), checkPicks_eq_ok.mpr hpicks, Except.bind_eq_ok.mpr ⟨columns, hcolumns,
      Except.bind_eq_ok.mpr ⟨(), checkFilter_eq_ok.mpr hfilter, rfl⟩⟩⟩

-- A source with a url query is settled if the query is, with one column.
theorem settle_downloadEach_eq_ok {catalog : Catalog} {kind : DownloadKind} {urls : Select Unit}
    {hints : List Hint} {position : Position} {settled : Source Settled} :
    Source.settle catalog (.downloadEach kind urls hints position) = .ok settled ↔
      ∃ urls', urls.settle catalog = .ok urls' ∧ urls'.note.columns.length = 1 ∧
        settled = .downloadEach kind urls' hints position := by
  rw [Source.settle]
  constructor
  · intro h
    obtain ⟨urls', hurls, h⟩ := Except.bind_eq_ok.mp h
    obtain ⟨hone, h⟩ := Except.ok_of_check h
    exact ⟨urls', hurls, not_not.mp hone, (Except.ok.inj h).symm⟩
  · rintro ⟨urls', hurls, hone, rfl⟩
    refine Except.bind_eq_ok.mpr ⟨urls', hurls, ?_⟩
    simp only [hone]
    rfl

-- The filter of a select has an operand.
theorem filter_of_infer {scope : Scope} {filter : Option Expr}
    (h : ∀ condition, filter = some condition → ∃ t, condition.infer scope = .ok t) :
    ∃ o, filter.mapM (Operand.ofExpr scope) = .ok o ∧
      (∀ condition, o = some condition → ∃ t, condition.type? scope = some t) ∧
      ((filter.map Expr.picks).getD [] = [] → (o.map Operand.extractions).getD [] = []) := by
  cases filter with
  | none => exact ⟨none, rfl, fun _ hnone => (nomatch hnone), fun _ => rfl⟩
  | some e =>
    obtain ⟨t, ht⟩ := h e rfl
    obtain ⟨o, ho, hot, hpicks⟩ := ofExpr_of_infer e ht
    refine ⟨some o, ?_, ?_, hpicks⟩
    · rw [Option.mapM_some, ho]
      rfl
    · intro condition hcondition
      rw [← Option.some.inj hcondition]
      exact ⟨t, hot⟩

mutual

/-- A select that was settled has a step, with the columns that it was given, and all of its selects
fit. -/
theorem ofSelect_of_settle {catalog : Catalog} : (select : Select Unit) →
    {settled : Select Settled} → select.settle catalog = .ok settled →
      ∃ step, SelectStep.ofSelect catalog settled = .ok step ∧
        step.columns = settled.note.columns ∧ ∀ q ∈ step.selects, q.Fits catalog
  -- By induction on selects and sources: a url query was settled within the source of its select.
  | ⟨projections, source, filter, hints, position, note⟩, settled, h => by
    obtain ⟨source', scope, threads, js, columns, nodes, kept, hsource, hscope, _, _, hpicks, hcolumns,
      hfilter, rfl⟩ := settle_eq_ok.mp h
    obtain ⟨step, hstep, hinner, hurls⟩ := ofSource_of_settle ⟨threads, js, nodes⟩ source hsource
    obtain ⟨hsame, hpage, hknown⟩ := scope_of_settled hscope hstep
    obtain ⟨parts, hparts, htypes, hordinals⟩ := selectColumns_eq_ok hcolumns
    obtain ⟨operands, hoperands, hoptypes, hopicks⟩ := projections_of_columns hparts
    obtain ⟨condition, hcondition, hctypes, hcpicks⟩ := filter_of_infer hfilter
    refine ⟨⟨columns, operands.flatten, step, condition⟩, ?_, rfl, ?_⟩
    · -- The generator asks for the scope, the projections, the filter and the source, in this order.
      rw [SelectStep.ofSelect, hscope]
      show (projections.mapM (projectionOperands scope) >>= _) = _
      rw [hoperands]
      show (kept.mapM (Operand.ofExpr scope) >>= _) = _
      rw [hcondition]
      show (SourceStep.ofSource catalog ⟨threads, js, nodes⟩ source' >>= _) = _
      rw [hstep]
      rfl
    · intro q hq
      rw [SelectStep.selects] at hq
      -- The select itself fits, and the url queries within it do by induction.
      rcases List.mem_cons.mp hq with rfl | hq
      · refine ⟨hknown, ?_, ?_, hordinals, ?_, hurls⟩
        · rw [hsame, hoptypes, htypes]
        · rw [hsame]
          exact hctypes
        · intro hextract
          -- If the source were no page, analysis would have refused the picks.
          by_contra hnot
          have hnil := hpicks fun hp => hnot (hpage hp)
          obtain ⟨h₁, h₂⟩ := List.append_eq_nil_iff.mp hnil
          refine hextract ?_
          rw [SelectStep.extractions, hopicks h₁, hcpicks h₂]
          rfl
      · exact hinner q hq

-- A source that was settled has a step, and its url query has one column.
theorem ofSource_of_settle {catalog : Catalog} (options : FetchOptions) : (source : Source Unit) →
    {settled : Source Settled} → source.settle catalog = .ok settled →
      ∃ step, SourceStep.ofSource catalog options settled = .ok step ∧
        (∀ q ∈ step.selects, q.Fits catalog) ∧
        ∀ kind query options, step = .downloadEach kind query options → query.columns.length = 1
  | .nothing, settled, h => by
    cases h
    exact ⟨_, rfl, fun _ hq => (nomatch hq), fun _ _ _ h => (nomatch h)⟩
  | .buffer name position, settled, h => by
    cases h
    exact ⟨_, rfl, fun _ hq => (nomatch hq), fun _ _ _ h => (nomatch h)⟩
  | .download kind url hints position, settled, h => by
    cases h
    exact ⟨_, rfl, fun _ hq => (nomatch hq), fun _ _ _ h => (nomatch h)⟩
  | .downloadEach kind urls hints position, settled, h => by
    obtain ⟨urls', hurls, hone, rfl⟩ := settle_downloadEach_eq_ok.mp h
    obtain ⟨query, hquery, hcolumns, hfits⟩ := ofSelect_of_settle urls hurls
    refine ⟨.downloadEach kind query options, ?_, hfits, ?_⟩
    · rw [SourceStep.ofSource, hquery]
      rfl
    · -- Analysis counted the columns of the url query.
      rintro _ _ _ ⟨⟩
      rw [hcolumns]
      exact hone

end

/-! ## 3. Statements -/

-- No name stands for the type of null.
theorem ofName?_ne_null {name : String} {type : ValueType}
    (h : ValueType.ofName? name = some type) : type ≠ .null := by
  unfold ValueType.ofName? at h
  split at h <;> cases h <;> decide

-- A declaration adds its column to those before it, if its type has a name and suits an identity.
theorem declareColumns_cons {buffer : String} {d : ColumnDecl} {rest : List ColumnDecl}
    {columns declared : List BufferColumn}
    (h : declareColumns buffer (d :: rest) columns = .ok declared) :
    ∃ type, ValueType.ofName? d.typeName = some type ∧ (d.identity = true → type = .integer) ∧
      declareColumns buffer rest (columns ++ [⟨d.name, type, d.identity⟩]) = .ok declared := by
  unfold declareColumns at h
  cases htype : ValueType.ofName? d.typeName with
  | none =>
    simp only [htype] at h
    cases h
  | some type =>
    simp only [htype] at h
    refine ⟨type, rfl, ?_⟩
    -- Whether the column is an identity or not, the rest is declared after it.
    by_cases hidentity : d.identity = true
    · rw [if_pos hidentity] at h
      obtain ⟨hinteger, h⟩ := Except.ok_of_check (Except.ok_of_check h).2
      exact ⟨fun _ => not_not.mp hinteger, h⟩
    · rw [if_neg hidentity] at h
      exact ⟨fun hid => absurd hid hidentity, h⟩

-- Declared columns can be columns.
theorem declareColumns_declarable {buffer : String} {decls : List ColumnDecl}
    {columns declared : List BufferColumn}
    (hcolumns : Schema.Declarable ⟨columns⟩)
    (h : declareColumns buffer decls columns = .ok declared) : Schema.Declarable ⟨declared⟩ := by
  -- By induction on the declarations: the columns so far are the accumulator.
  induction decls generalizing columns with
  | nil =>
    cases h
    exact hcolumns
  | cons d rest ih =>
    obtain ⟨type, htype, hinteger, hrest⟩ := declareColumns_cons h
    refine ih ⟨fun c hc => ?_, fun c hc hid => ?_⟩ hrest
    · rcases List.mem_append.mp hc with hc | hc
      · exact hcolumns.typed c hc
      · rw [List.mem_singleton.mp hc]
        exact ofName?_ne_null htype
    · rcases List.mem_append.mp hc with hc | hc
      · exact hcolumns.identity c hc hid
      · rw [List.mem_singleton.mp hc] at hid ⊢
        exact hinteger hid

theorem declaredSchema_declarable {buffer : String} {decls : List ColumnDecl} {schema : Schema}
    (h : declaredSchema buffer decls = .ok schema) : schema.Declarable := by
  obtain ⟨columns, hcolumns, rfl⟩ := Except.map_eq_ok.mp h
  exact declareColumns_declarable
    ⟨fun _ hc => absurd hc List.not_mem_nil, fun _ hc => absurd hc List.not_mem_nil⟩ hcolumns

/-- Targets that an insert can fill: each of them once, none of them the identity. -/
def Schema.Fillable (schema : Schema) (targets : List Nat) : Prop :=
  targets.Nodup ∧ ∀ t ∈ targets, ∃ c, schema.columns[t]? = some c ∧ c.identity = false

-- The index of the identity is no target.
theorem Schema.Fillable.identity_notMem {schema : Schema} {targets : List Nat}
    (h : schema.Fillable targets) {i : Nat} (hi : schema.identity? = some i) : i ∉ targets := by
  intro hmem
  obtain ⟨c, hc, hidentity⟩ := h.2 i hmem
  obtain ⟨hlt, hid, _⟩ := List.findIdx?_eq_some_iff_getElem.mp hi
  rw [List.getElem?_eq_getElem hlt] at hc
  cases hc
  rw [hidentity] at hid
  cases hid

-- Targets that are named are looked up one by one, and checked to be new.
theorem nameTargets_cons_eq_ok {buffer : String} {schema : Schema} {position : Position}
    {name : String} {rest : List String} {targets found : List Nat} :
    nameTargets buffer schema position (name :: rest) targets = .ok found ↔
      ∃ index c, schema.position? name = some index ∧ schema.columns[index]? = some c ∧
        c.identity = false ∧ index ∉ targets ∧
        nameTargets buffer schema position rest (targets ++ [index]) = .ok found := by
  rw [nameTargets]
  cases hindex : schema.position? name with
  | none => simp [throw, throwThe, MonadExceptOf.throw]
  | some index =>
    have hlt : index < schema.columns.length := (List.findIdx?_eq_some_iff_getElem.mp hindex).1
    constructor
    · intro h
      obtain ⟨hidentity, h⟩ := Except.ok_of_check h
      obtain ⟨hnew, h⟩ := Except.ok_of_check h
      rw [List.getElem?_eq_getElem hlt] at hidentity
      exact ⟨index, _, rfl, List.getElem?_eq_getElem hlt, Bool.not_eq_true _ ▸ hidentity, hnew, h⟩
    · rintro ⟨_, c, ⟨⟩, hc, hidentity, hnew, h⟩
      simp only [hc, Option.map_some, Option.getD_some, hidentity, Bool.false_eq_true, if_false, hnew]
      exact h

theorem nameTargets_fillable {buffer : String} {schema : Schema} {position : Position}
    {names : List String} {targets found : List Nat} (htargets : schema.Fillable targets)
    (h : nameTargets buffer schema position names targets = .ok found) :
    schema.Fillable found := by
  -- By induction on the names: the targets found so far can be filled.
  induction names generalizing targets with
  | nil =>
    cases h
    exact htargets
  | cons name rest ih =>
    obtain ⟨index, c, _, hc, hidentity, hnew, h⟩ := nameTargets_cons_eq_ok.mp h
    refine ih ⟨?_, fun t ht => ?_⟩ h
    · refine List.nodup_append.mpr ⟨htargets.1, List.pairwise_singleton _ _, ?_⟩
      rintro t ht _ hmem rfl
      exact hnew (List.mem_singleton.mp hmem ▸ ht)
    · rcases List.mem_append.mp ht with ht | ht
      · exact htargets.2 t ht
      · rw [List.mem_singleton.mp ht]
        exact ⟨c, hc, hidentity⟩

-- An insert can fill all columns but the identity.
theorem Schema.fillable_insertable (schema : Schema) : schema.Fillable schema.insertable := by
  refine ⟨List.nodup_range.filter _, fun t ht => ?_⟩
  obtain ⟨hrange, hidentity⟩ := List.mem_filter.mp ht
  rw [List.getElem?_eq_getElem (List.mem_range.mp hrange)] at hidentity ⊢
  exact ⟨_, rfl, by simpa using hidentity⟩

theorem insertTargets_fillable {buffer : String} {schema : Schema} {names : Option (List String)}
    {position : Position} {targets : List Nat}
    (h : insertTargets buffer schema names position = .ok targets) : schema.Fillable targets := by
  cases names with
  | none =>
    cases h
    exact schema.fillable_insertable
  | some names => exact nameTargets_fillable ⟨List.nodup_nil, fun _ ht => (nomatch ht)⟩ h

-- Targets take columns whose types were checked.
theorem takes_of_checkTypes {buffer : String} {schema : Schema} {position : Position}
    {targets : List Nat} {columns : List Column} (htargets : schema.Fillable targets)
    (hlength : targets.length = columns.length)
    (h : checkTypes buffer schema position (targets.zip columns) = .ok ()) :
    schema.Takes targets columns := by
  refine ⟨htargets.1, ?_⟩
  have hfill := htargets.2
  clear htargets
  -- Targets and columns are as many, so that the check goes through both lists to their ends.
  induction targets generalizing columns with
  | nil =>
    cases columns with
    | nil => exact .nil
    | cons c columns => cases hlength
  | cons t targets ih =>
    cases columns with
    | nil => cases hlength
    | cons column columns =>
      obtain ⟨c, hc, hidentity⟩ := hfill t List.mem_cons_self
      rw [List.zip_cons_cons] at h
      unfold checkTypes at h
      simp only [hc] at h
      by_cases haccepts : c.type.accepts column.type = true
      · rw [if_pos haccepts] at h
        have hrest := ih (Nat.succ.inj hlength) h fun t ht => hfill t (List.mem_cons_of_mem _ ht)
        exact .cons ⟨c, hc, hidentity, haccepts⟩ hrest
      · rw [if_neg haccepts] at h
        cases h

-- An insert is settled if its buffer is known and takes what its select gives.
theorem settle_insert_eq_ok {catalog after : Catalog} {target : String} {columns : Option (List String)}
    {query : Select Unit} {position : Position} {settled : Statement Settled} :
    Statement.settle catalog (.insert target columns query position) = .ok (settled, after) ↔
      ∃ schema query' targets, catalog.find? target = some schema ∧ query.settle catalog = .ok query' ∧
        insertTargets target schema columns position = .ok targets ∧
        targets.length = query'.note.columns.length ∧
        checkTypes target schema position (targets.zip query'.note.columns) = .ok () ∧
        settled = .insert target columns query' position ∧ catalog = after := by
  rw [Statement.settle]
  cases hschema : catalog.find? target with
  | none => simp [throw, throwThe, MonadExceptOf.throw]
  | some schema =>
    constructor
    · intro h
      obtain ⟨query', hquery, h⟩ := Except.bind_eq_ok.mp h
      obtain ⟨targets, htargets, h⟩ := Except.bind_eq_ok.mp h
      obtain ⟨hlength, h⟩ := Except.ok_of_check h
      obtain ⟨_, hcheck, h⟩ := Except.bind_eq_ok.mp h
      cases h
      exact ⟨schema, query', targets, rfl, hquery, htargets, not_not.mp hlength, hcheck, rfl, rfl⟩
    · rintro ⟨_, query', targets, ⟨⟩, hquery, htargets, hlength, hcheck, rfl, rfl⟩
      refine Except.bind_eq_ok.mpr ⟨query', hquery, Except.bind_eq_ok.mpr ⟨targets, htargets, ?_⟩⟩
      simp only [hlength, ne_eq, not_true_eq_false, if_false]
      exact Except.bind_eq_ok.mpr ⟨(), hcheck, rfl⟩

-- A statement that was settled has a step, which declares the same buffers and fits those before
-- it.
theorem ofStatement_of_settle {catalog after : Catalog} {statement : Statement Unit}
    {settled : Statement Settled} (h : statement.settle catalog = .ok (settled, after)) :
    ∃ step, Step.ofStatement catalog settled = .ok (step, after) ∧
      after = catalog ++ step.declares.toList ∧ step.Fits catalog := by
  -- The generator repeats the lookups of analysis in the same catalog; the rest of a step comes from
  -- what the settled select has become.
  cases statement with
  | createBuffer name columns position =>
    unfold Statement.settle at h
    obtain ⟨hnew, h⟩ := Except.ok_of_check h
    obtain ⟨schema, hschema, h⟩ := Except.bind_eq_ok.mp h
    cases h
    refine ⟨.createBuffer name schema, ?_, rfl, ?_, ?_, declaredSchema_declarable hschema⟩
    · show (declaredSchema name columns >>= _) = _
      rw [hschema]
      rfl
    · exact fun _ hq => absurd hq List.not_mem_nil
    · -- Analysis refused names that were taken.
      rw [← Option.not_isSome_iff_eq_none]
      exact hnew
  | insert target columns query position =>
    obtain ⟨schema, query', targets, hschema, hquery, htargets, hlength, hcheck, rfl, rfl⟩ :=
      settle_insert_eq_ok.mp h
    obtain ⟨step, hstep, hcolumns, hfits⟩ := ofSelect_of_settle query hquery
    refine ⟨.insert target targets step, ?_, (List.append_nil _).symm, hfits, schema, hschema, ?_⟩
    · unfold Step.ofStatement
      simp only [hschema]
      rw [htargets]
      show (SelectStep.ofSelect catalog query' >>= _) = _
      rw [hstep]
      rfl
    · rw [hcolumns]
      exact takes_of_checkTypes (insertTargets_fillable htargets) hlength hcheck
  | select query =>
    unfold Statement.settle at h
    obtain ⟨query', hquery, h⟩ := Except.bind_eq_ok.mp h
    cases h
    obtain ⟨step, hstep, _, hfits⟩ := ofSelect_of_settle query hquery
    refine ⟨.select step, ?_, (List.append_nil _).symm, hfits, trivial⟩
    show (SelectStep.ofSelect catalog query' >>= _) = _
    rw [hstep]
    rfl

/-! ## 4. Scripts -/

-- The statements that were settled after those of a catalog have steps that fit it.
theorem generateFrom_of_settle {catalog : Catalog} {program : Program Unit}
    {settled : Program Settled} (h : settleFrom catalog program = .ok settled) :
    ∃ plan, generateFrom catalog settled = .ok plan ∧ Plan.FitsAfter catalog plan := by
  -- By induction on the statements: both passes hand the same catalog on from one to the next.
  induction program generalizing catalog settled with
  | nil =>
    cases h
    exact ⟨[], rfl, fun before _ _ hplan => by cases before <;> cases hplan⟩
  | cons statement rest ih =>
    unfold settleFrom at h
    obtain ⟨⟨statement', after⟩, hstatement, h⟩ := Except.bind_eq_ok.mp h
    obtain ⟨rest', hrest, h⟩ := Except.bind_eq_ok.mp h
    cases h
    obtain ⟨step, hstep, hafter, hfits⟩ := ofStatement_of_settle hstatement
    obtain ⟨plan, hplan, hplanFits⟩ := ih hrest
    refine ⟨step :: plan, ?_, ?_⟩
    · unfold generateFrom
      rw [hstep]
      show (generateFrom after rest' >>= _) = _
      rw [hplan]
      rfl
    · rw [hafter] at hplanFits
      exact .cons hfits hplanFits

/-- A script that was settled has a plan, and each step of the plan fits the buffers that earlier
ones declare. -/
theorem generate_of_settle {program : Program Unit} {settled : Program Settled}
    (h : settle program = .ok settled) :
    ∃ plan, generate settled = .ok plan ∧
      ∀ before step after, plan = before ++ step :: after → step.Fits (Plan.catalog before) := by
  obtain ⟨plan, hplan, hfits⟩ := generateFrom_of_settle h
  exact ⟨plan, hplan, hfits⟩

/-- The plan of a program. -/
def Script.Program.plan (program : Program Unit) : Except CompileError Plan := do
  generate (← settle program)

-- A script has the plan of the program that it is read as.
theorem compile_eq_ok {source : String} {plan : Plan} :
    compile source = .ok plan ↔ ∃ program, parseProgram source = .ok program ∧ program.plan = .ok plan := by
  unfold compile check
  rw [Except.bind_eq_ok]
  constructor
  · rintro ⟨settled, hcheck, hgenerate⟩
    obtain ⟨program, hparse, hsettle⟩ := Except.bind_eq_ok.mp hcheck
    exact ⟨program, Except.mapError_eq_ok.mp hparse, Except.bind_eq_ok.mpr
      ⟨settled, Except.mapError_eq_ok.mp hsettle, Except.mapError_eq_ok.mp hgenerate⟩⟩
  · rintro ⟨program, hparse, hplan⟩
    obtain ⟨settled, hsettle, hgenerate⟩ := Except.bind_eq_ok.mp hplan
    exact ⟨settled, Except.bind_eq_ok.mpr ⟨program, Except.mapError_eq_ok.mpr hparse,
      Except.mapError_eq_ok.mpr hsettle⟩, Except.mapError_eq_ok.mpr hgenerate⟩

/-- Each step of the plan of a script fits the buffers that earlier ones declare. -/
theorem fits_of_compile {source : String} {plan : Plan} (h : compile source = .ok plan) :
    ∀ before step after, plan = before ++ step :: after → step.Fits (Plan.catalog before) := by
  obtain ⟨program, _, hplan⟩ := compile_eq_ok.mp h
  obtain ⟨settled, hsettle, hgenerate⟩ := Except.bind_eq_ok.mp hplan
  obtain ⟨plan', hplan', hfits⟩ := generate_of_settle hsettle
  rw [hplan'] at hgenerate
  cases hgenerate
  exact hfits

end Quarry
