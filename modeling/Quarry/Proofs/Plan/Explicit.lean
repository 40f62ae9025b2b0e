import Quarry.Proofs.Plan.Naming
import Quarry.Proofs.Plan.Places
import Quarry.Proofs.Script.Roundtrip

/-!
# Short forms spelled out

A star stands for the columns of its source, one after the other, and an insert without a list of columns
for the list of all columns but the identity. Whoever writes them out gets the same plan, if no two columns
of a buffer differ only in letter case.
-/

namespace Quarry

open Script

/-! ## 1. Definitions -/

/-- The names that a star stands for. A download of JSON has no names of its own. -/
def Scope.names : Scope → List String
  | .buffer schema => schema.columns.map BufferColumn.name
  | scope => scope.fields.map PageField.name

/-- The names that an insert without a list stands for. -/
def Schema.insertableNames (schema : Schema) : List String :=
  (schema.columns.filter fun c => !c.identity).map BufferColumn.name

/-- A star as one projection for each name. -/
def Script.Projection.spellOut (scope : Scope) : Projection → List Projection
  | .star position => scope.names.map fun name => .item (.column name position) none
  | .item e label => [.item e label]

mutual

/-- A select with the stars of it and of its url query written out. -/
def Script.Select.spellOut (catalog : Catalog) : Select Unit → Select Unit
  | ⟨projections, source, filter, hints, position, note⟩ =>
    let scope := (Scope.ofSource catalog source).toOption.getD .empty
    ⟨projections.flatMap (Projection.spellOut scope), source.spellOut catalog, filter, hints, position, note⟩

def Script.Source.spellOut (catalog : Catalog) : Source Unit → Source Unit
  | .nothing => .nothing
  | .buffer name position => .buffer name position
  | .download kind url hints position => .download kind url hints position
  | .downloadEach kind urls hints position => .downloadEach kind (urls.spellOut catalog) hints position

end

def Script.Statement.spellOut (catalog : Catalog) : Statement Unit → Statement Unit
  | .createBuffer name columns position => .createBuffer name columns position
  | .insert target columns query position =>
    .insert target (columns <|> (catalog.find? target).map Schema.insertableNames) (query.spellOut catalog)
      position
  | .select query => .select (query.spellOut catalog)

/-- The buffers declared after a statement. -/
def Script.Statement.declare (catalog : Catalog) : Statement Unit → Catalog
  | .createBuffer name columns _ =>
    catalog ++ ((declaredSchema name columns).toOption.map fun schema => (name, schema)).toList
  | _ => catalog

def Script.Program.spellOutFrom : Catalog → Program Unit → Program Unit
  | _, [] => []
  | catalog, s :: rest => s.spellOut catalog :: spellOutFrom (s.declare catalog) rest

/-- A script with all stars and all lists of inserts written out. -/
def Script.Program.spellOut (program : Program Unit) : Program Unit := program.spellOutFrom []

mutual

/-- There is no star, neither in the select nor in its url query. -/
def Script.Select.Explicit : Select Unit → Prop
  | ⟨projections, source, _, _, _, _⟩ => (∀ p ∈ projections, ∀ position, p ≠ .star position) ∧ source.Explicit

def Script.Source.Explicit : Source Unit → Prop
  | .nothing | .buffer _ _ | .download _ _ _ _ => True
  | .downloadEach _ urls _ _ => urls.Explicit

end

/-- There is no star, and an insert has a list of columns. -/
def Script.Statement.Explicit : Statement Unit → Prop
  | .createBuffer _ _ _ => True
  | .insert _ columns query _ => columns.isSome ∧ query.Explicit
  | .select query => query.Explicit

/-- No two columns of the declaration have the same name, in any letter case. -/
def Script.Statement.DistinctNames : Statement Unit → Prop
  | .createBuffer _ columns _ => columns.Pairwise fun c d => Text.sameName c.name d.name = false
  | _ => True

instance : (s : Statement Unit) → Decidable s.DistinctNames
  | .createBuffer _ columns _ =>
    inferInstanceAs (Decidable (columns.Pairwise fun c d => Text.sameName c.name d.name = false))
  | .insert _ _ _ _ | .select _ => isTrue trivial

/-- Scripts that mean the program are compiled to the plan. -/
structure Script.Program.Compiles (program : Program Unit) (plan : Plan) : Prop where
  /-- The program has the plan. -/
  planned : program.plan = .ok plan
  /-- So has each script that is read as the program, up to the places of its parts. -/
  reads : ∀ (source : String) (p : Program Unit), parseProgram source = .ok p →
    p.unplaced = program.unplaced → compile source = .ok plan
  /-- So has each script with the printed tokens of the program. -/
  prints : ∀ (source : String) (ts : List Lexeme), HasLexemes source ts →
    ts.map Lexeme.token = program.print → compile source = .ok plan

/-! ## 2. Names of columns -/

/-- A schema whose columns can be named one by one. -/
structure Schema.Spellable (schema : Schema) : Prop where
  distinct : schema.columns.Pairwise fun c d => Text.sameName c.name d.name = false
  names : ∀ c ∈ schema.columns, IsName c.name
  nonempty : schema.columns ≠ []

def Catalog.Spellable (catalog : Catalog) : Prop :=
  ∀ name schema, catalog.find? name = some schema → schema.Spellable

def Scope.Spellable (scope : Scope) : Prop := ∀ schema, scope = .buffer schema → schema.Spellable

theorem Catalog.Spellable.scope {ν : Type} {catalog : Catalog} (h : catalog.Spellable) {source : Source ν}
    {scope : Scope} (hscope : Scope.ofSource catalog source = .ok scope) : scope.Spellable := by
  rintro schema rfl
  cases source with
  | nothing => cases hscope
  | buffer name position =>
    unfold Scope.ofSource at hscope
    cases hfind : catalog.find? name with
    | none =>
      simp only [hfind] at hscope
      cases hscope
    | some found =>
      simp only [hfind] at hscope
      cases hscope
      exact h name _ hfind
  | download kind url hints position => cases kind <;> cases hscope
  | downloadEach kind urls hints position => cases kind <;> cases hscope

-- The columns of a list by their indices.
theorem forall₂_range {α : Type} (l : List α) :
    List.Forall₂ (fun i a => l[i]? = some a) (List.range l.length) l := by
  refine List.forall₂_iff_get.mpr ⟨List.length_range, fun i _ hi => ?_⟩
  simp

-- A column is the first one with its name.
theorem Schema.Spellable.position? {schema : Schema} (h : schema.Spellable) {index : Nat} {c : BufferColumn}
    (hc : schema.columns[index]? = some c) : schema.position? c.name = some index := by
  refine position?_eq_some_iff.mpr ⟨⟨c, hc, Text.sameName_refl c.name⟩, fun d hd => ?_⟩
  obtain ⟨j, hj, rfl⟩ := List.mem_take_iff_getElem.mp hd
  obtain ⟨hlt, rfl⟩ := List.getElem?_eq_some_iff.mp hc
  exact List.pairwise_iff_getElem.mp h.distinct j index _ hlt (by omega)

theorem Schema.Spellable.found {schema : Schema} (h : schema.Spellable) {index : Nat} {c : BufferColumn}
    (hc : schema.columns[index]? = some c) : schema.Found index c :=
  Schema.found_of_position? hc (h.position? hc)

-- A field is the first one with its name.
theorem Scope.field?_name {scope : Scope} {f : PageField} (hf : f ∈ scope.fields) :
    scope.field? f.name = some f := by
  cases scope with
  | empty | buffer _ | json => cases hf
  | page =>
    cases f with
    | filename => exact absurd hf (by decide)
    | _ => cbv
  | image => cases f <;> cbv

theorem Scope.columnType?_name {scope : Scope} {f : PageField} (hf : f ∈ scope.fields) :
    scope.columnType? f.name = some f.type := by
  cases scope with
  | empty | buffer _ | json => cases hf
  | page | image =>
    show (Scope.field? _ f.name).map PageField.type = _
    rw [Scope.field?_name hf]
    rfl

theorem ofName_field {scope : Scope} {f : PageField} (hf : f ∈ scope.fields) (position : Position) :
    Operand.ofName scope f.name position = .ok (.field f) := by
  cases scope with
  | empty | buffer _ | json => cases hf
  | page | image => simp only [Operand.ofName, Scope.field?_name hf]

/-! ## 3. Selects -/

-- A name is the column that it stands for.
theorem projectionColumns_name {scope : Scope} {name : String} {type : ValueType}
    (h : scope.columnType? name = some type) (position : Position) :
    projectionColumns scope (.item (.column name position) none) = .ok [(name, type)] := by
  simp only [projectionColumns, Expr.infer, h]
  rfl

theorem projectionOperands_name {scope : Scope} {name : String} {position : Position} {o : Operand}
    (h : Operand.ofName scope name position = .ok o) :
    projectionOperands scope (.item (.column name position) none) = .ok [o] := by
  simp only [projectionOperands, Operand.ofExpr, h]
  rfl

-- What is written out for a star has its columns.
theorem columns_spellOut {scope : Scope} (hscope : scope.Spellable) (p : Projection)
    (columns : List (String × ValueType)) (h : projectionColumns scope p = .ok columns) :
    (p.spellOut scope).mapM (projectionColumns scope) = .ok (columns.map fun c => [c]) := by
  rw [Except.mapM_eq_ok]
  cases p with
  | star position =>
    have hfields : ∀ scope : Scope, List.Forall₂ (fun p c => projectionColumns scope p = .ok c)
        ((scope.fields.map PageField.name).map fun name => .item (.column name position) none)
        ((scope.fields.map fun f => (f.name, f.type)).map fun c => [c]) := by
      intro scope
      simp only [List.forall₂_map_left_iff, List.forall₂_map_right_iff, List.forall₂_same]
      exact fun f hf => projectionColumns_name (Scope.columnType?_name hf) position
    cases scope with
    | empty | json => cases h
    | page | image =>
      cases h
      exact hfields _
    | buffer schema =>
      cases h
      simp only [Projection.spellOut, Scope.names, List.forall₂_map_left_iff, List.forall₂_map_right_iff,
        List.forall₂_same]
      intro c hc
      obtain ⟨index, hindex⟩ := List.mem_iff_getElem?.mp hc
      exact projectionColumns_name ((hscope schema rfl).found hindex).type position
  | item e label =>
    have hitem := h
    obtain ⟨t, _, h⟩ := Except.bind_eq_ok.mp h
    cases h
    exact .cons hitem .nil

-- What is written out for a star has its operands.
theorem operands_spellOut {scope : Scope} (hscope : scope.Spellable) (p : Projection) (os : List Operand)
    (h : projectionOperands scope p = .ok os) :
    (p.spellOut scope).mapM (projectionOperands scope) = .ok (os.map fun o => [o]) := by
  rw [Except.mapM_eq_ok]
  cases p with
  | star position =>
    have hfields : ∀ scope : Scope, List.Forall₂ (fun p o => projectionOperands scope p = .ok o)
        ((scope.fields.map PageField.name).map fun name => .item (.column name position) none)
        ((scope.fields.map Operand.field).map fun o => [o]) := by
      intro scope
      simp only [List.forall₂_map_left_iff, List.forall₂_map_right_iff, List.forall₂_same]
      exact fun f hf => projectionOperands_name (ofName_field hf position)
    cases scope with
    | empty | json | page | image =>
      cases h
      exact hfields _
    | buffer schema =>
      cases h
      simp only [Projection.spellOut, Scope.names, List.forall₂_map_left_iff, List.forall₂_map_right_iff]
      refine (forall₂_range schema.columns).flip.imp fun c index hindex => ?_
      exact projectionOperands_name (((hscope schema rfl).found hindex).reads position)
  | item e label =>
    have hitem := h
    obtain ⟨o, _, h⟩ := Except.bind_eq_ok.mp h
    cases h
    exact .cons hitem .nil

theorem flatten_singletons {α : Type} (l : List α) : (l.map fun a => [a]).flatten = l := by
  simp [← List.flatMap_def]

theorem selectColumns_spellOut {scope : Scope} (hscope : scope.Spellable) {projections : List Projection}
    {columns : List Column} (h : selectColumns scope projections = .ok columns) :
    selectColumns scope (projections.flatMap (Projection.spellOut scope)) = .ok columns := by
  obtain ⟨parts, hparts, h⟩ := Except.bind_eq_ok.mp h
  have hspelled := Except.mapM_flatMap_eq_ok hparts fun p _ => columns_spellOut hscope p
  refine Except.bind_eq_ok.mpr ⟨_, hspelled, ?_⟩
  rw [flatten_singletons]
  exact h

-- Names pick nothing.
theorem picks_spellOut (scope : Scope) (projections : List Projection) :
    (projections.flatMap (Projection.spellOut scope)).flatMap Projection.picks =
      projections.flatMap Projection.picks := by
  rw [List.flatMap_assoc]
  refine List.flatMap_congr fun p _ => ?_
  cases p with
  | star position =>
    rw [Projection.spellOut, List.flatMap_map]
    exact List.flatMap_eq_nil_iff.mpr fun _ _ => rfl
  | item e label => exact List.append_nil _

-- What a source that was settled reads is in the scope that it had before.
theorem scope_settle {catalog : Catalog} {source : Source Unit} {settled : Source Settled}
    (h : source.settle catalog = .ok settled) :
    Scope.ofSource catalog settled = Scope.ofSource catalog source := by
  cases source with
  | nothing | buffer _ _ | download _ _ _ _ =>
    cases h
    rfl
  | downloadEach kind urls hints position =>
    obtain ⟨_, _, _, rfl⟩ := settle_downloadEach_eq_ok.mp h
    rfl

theorem scope_spellOut (catalog : Catalog) (source : Source Unit) :
    Scope.ofSource catalog (source.spellOut catalog) = Scope.ofSource catalog source := by
  cases source <;> rfl

-- Stars are written out in the scope that the source of their select has.
theorem Select.spellOut_eq {catalog : Catalog} {projections : List Projection} {source : Source Unit}
    {filter : Option Expr} {hints : List Hint} {position : Position} {note : Unit} {source' : Source Settled}
    {scope : Scope} (hsource : source.settle catalog = .ok source')
    (hscope : Scope.ofSource catalog source' = .ok scope) :
    Select.spellOut catalog ⟨projections, source, filter, hints, position, note⟩ =
      ⟨projections.flatMap (Projection.spellOut scope), source.spellOut catalog, filter, hints, position,
        note⟩ := by
  rw [Select.spellOut, ← scope_settle hsource, hscope]
  rfl

/-- Two settled selects that have the same step. -/
structure Script.Select.SameStep (catalog : Catalog) (q q' : Select Settled) : Prop where
  note : q'.note = q.note
  step : SelectStep.ofSelect catalog q' = SelectStep.ofSelect catalog q

/-- Two settled sources that have the same step, whatever the options of the select around them. -/
structure Script.Source.SameStep (catalog : Catalog) (source source' : Source Settled) : Prop where
  hints : downloadHints source' = downloadHints source
  step : ∀ options, SourceStep.ofSource catalog options source' = SourceStep.ofSource catalog options source

mutual

theorem Select.spellOut_settle {catalog : Catalog} (hcatalog : catalog.Spellable) : (q : Select Unit) →
    {settled : Select Settled} → q.settle catalog = .ok settled →
      ∃ settled', (q.spellOut catalog).settle catalog = .ok settled' ∧ settled.SameStep catalog settled'
  | ⟨projections, source, filter, hints, position, note⟩, settled, h => by
    obtain ⟨source', scope, threads, js, columns, nodes, kept, hsource, hscope, hhints, hsplit, hpicks,
      hcolumns, hfilter, rfl⟩ := settle_eq_ok.mp h
    obtain ⟨source'', hsource'', hsame⟩ := Source.spellOut_settle hcatalog source hsource
    have hspellable : scope.Spellable := hcatalog.scope hscope
    have hscope'' : Scope.ofSource catalog source'' = .ok scope := by
      rw [scope_settle hsource'', scope_spellOut, ← scope_settle hsource, hscope]
    obtain ⟨parts, hparts, _, _⟩ := selectColumns_eq_ok hcolumns
    obtain ⟨operands, hoperands, _, _⟩ := projections_of_columns hparts
    refine ⟨⟨projections.flatMap (Projection.spellOut scope), source'', kept, hints, position,
      ⟨columns, threads, js, nodes⟩⟩, ?_, rfl, ?_⟩
    · rw [Select.spellOut_eq hsource hscope]
      refine settle_eq_ok.mpr ⟨source'', scope, threads, js, columns, nodes, kept, hsource'', hscope'', ?_,
        hsplit, ?_, selectColumns_spellOut hspellable hcolumns, hfilter, rfl⟩
      · rw [hsame.hints]
        exact hhints
      · rw [picks_spellOut]
        exact hpicks
    · have hspelled := Except.mapM_flatMap_eq_ok hoperands fun p _ => operands_spellOut hspellable p
      rw [SelectStep.ofSelect, SelectStep.ofSelect, hscope, hscope'']
      show (List.mapM (projectionOperands scope) _ >>= _) = (List.mapM (projectionOperands scope) _ >>= _)
      rw [hoperands, hspelled]
      show (kept.mapM (Operand.ofExpr scope) >>= _) = (kept.mapM (Operand.ofExpr scope) >>= _)
      refine bind_congr fun condition => ?_
      simp only [hsame.step, flatten_singletons]

theorem Source.spellOut_settle {catalog : Catalog} (hcatalog : catalog.Spellable) : (source : Source Unit) →
    {settled : Source Settled} → source.settle catalog = .ok settled →
      ∃ settled', (source.spellOut catalog).settle catalog = .ok settled' ∧ settled.SameStep catalog settled'
  | .nothing, settled, h => ⟨settled, h, rfl, fun _ => rfl⟩
  | .buffer _ _, settled, h => ⟨settled, h, rfl, fun _ => rfl⟩
  | .download _ _ _ _, settled, h => ⟨settled, h, rfl, fun _ => rfl⟩
  | .downloadEach kind urls hints position, settled, h => by
    obtain ⟨urls', hurls, hone, rfl⟩ := settle_downloadEach_eq_ok.mp h
    obtain ⟨urls'', hurls'', hnote, hstep⟩ := Select.spellOut_settle hcatalog urls hurls
    refine ⟨.downloadEach kind urls'' hints position, ?_, rfl, fun options => ?_⟩
    · rw [← hnote] at hone
      exact settle_downloadEach_eq_ok.mpr ⟨urls'', hurls'', hone, rfl⟩
    · rw [SourceStep.ofSource, SourceStep.ofSource, hstep]

end

-- Projections have columns.
theorem projectionColumns_ne_nil {scope : Scope} (hscope : scope.Spellable) {p : Projection}
    {columns : List (String × ValueType)} (h : projectionColumns scope p = .ok columns) : columns ≠ [] := by
  cases p with
  | star position =>
    cases scope with
    | empty | json => cases h
    | page | image =>
      cases h
      exact List.cons_ne_nil _ _
    | buffer schema =>
      cases h
      exact fun hnil => (hscope schema rfl).nonempty (List.map_eq_nil_iff.mp hnil)
  | item e label =>
    obtain ⟨t, _, h⟩ := Except.bind_eq_ok.mp h
    cases h
    exact List.cons_ne_nil _ _

theorem selectColumns_ne_nil {scope : Scope} (hscope : scope.Spellable) {projections : List Projection}
    (hne : projections ≠ []) {columns : List Column} (h : selectColumns scope projections = .ok columns) :
    columns ≠ [] := by
  obtain ⟨parts, hparts, h⟩ := Except.bind_eq_ok.mp h
  cases Except.mapM_eq_ok.mp hparts with
  | nil => exact absurd rfl hne
  | @cons p part _ parts hp _ =>
    cases h
    simp [projectionColumns_ne_nil hscope hp]

theorem isName_field (f : PageField) : IsName f.name := by
  unfold IsName
  cases f <;> decide +kernel

-- The names that a star stands for are no keywords.
theorem Scope.Spellable.isName {scope : Scope} (h : scope.Spellable) {name : String}
    (hname : name ∈ scope.names) : IsName name := by
  cases scope with
  | buffer schema =>
    obtain ⟨c, hc, rfl⟩ := List.mem_map.mp hname
    exact (h schema rfl).names c hc
  | empty | page | image | json =>
    obtain ⟨f, _, rfl⟩ := List.mem_map.mp hname
    exact isName_field f

theorem normal_spellOut {scope : Scope} (hscope : scope.Spellable) {p p' : Projection} (hp : p.Normal)
    (hmem : p' ∈ p.spellOut scope) : p'.Normal := by
  cases p with
  | star position =>
    obtain ⟨name, hname, rfl⟩ := List.mem_map.mp hmem
    exact hscope.isName hname
  | item e label => exact List.mem_singleton.mp hmem ▸ hp

theorem isDownload_spellOut (catalog : Catalog) (source : Source Unit) :
    (source.spellOut catalog).isDownload = source.isDownload := by
  cases source <;> rfl

mutual

-- A select that can be written can be written without stars.
theorem Select.spellOut_normal {catalog : Catalog} (hcatalog : catalog.Spellable) : (q : Select Unit) →
    q.Normal → {settled : Select Settled} → q.settle catalog = .ok settled →
      (q.spellOut catalog).Normal ∧ settled.note.columns ≠ []
  | ⟨projections, source, filter, hints, position, note⟩, hnormal, settled, h => by
    obtain ⟨source', scope, threads, js, columns, nodes, kept, hsource, hscope, _, _, _, hcolumns, _, rfl⟩ :=
      settle_eq_ok.mp h
    obtain ⟨hne, hprojections, hsourceNormal, hfilter, hhints, hfollow⟩ := hnormal
    have hspellable : scope.Spellable := hcatalog.scope hscope
    have hcolumnsNe : columns ≠ [] := selectColumns_ne_nil hspellable hne hcolumns
    refine ⟨?_, hcolumnsNe⟩
    rw [Select.spellOut_eq hsource hscope]
    refine ⟨fun hnil => ?_, fun p hp => ?_, Source.spellOut_normal hcatalog source hsourceNormal hsource,
      hfilter, hhints, ?_⟩
    · -- Without projections there would be no columns.
      have hspelled := selectColumns_spellOut hspellable hcolumns
      rw [hnil] at hspelled
      cases hspelled
      exact hcolumnsNe rfl
    · obtain ⟨p₀, hp₀, hp⟩ := List.mem_flatMap.mp hp
      exact normal_spellOut hspellable (hprojections p₀ hp₀) hp
    · rw [isDownload_spellOut]
      exact hfollow

theorem Source.spellOut_normal {catalog : Catalog} (hcatalog : catalog.Spellable) : (source : Source Unit) →
    source.Normal → {settled : Source Settled} → source.settle catalog = .ok settled →
      (source.spellOut catalog).Normal
  | .nothing, hnormal, _, _ => hnormal
  | .buffer _ _, hnormal, _, _ => hnormal
  | .download _ _ _ _, hnormal, _, _ => hnormal
  | .downloadEach kind urls hints position, ⟨hurls, hhints⟩, settled, h => by
    obtain ⟨_, hsettle, _, _⟩ := settle_downloadEach_eq_ok.mp h
    exact ⟨(Select.spellOut_normal hcatalog urls hurls hsettle).1, hhints⟩

end

theorem ne_star_of_spellOut {scope : Scope} {p p' : Projection} (h : p' ∈ p.spellOut scope)
    (position : Position) : p' ≠ .star position := by
  rintro rfl
  cases p with
  | star _ =>
    obtain ⟨_, _, heq⟩ := List.mem_map.mp h
    cases heq
  | item _ _ => cases List.mem_singleton.mp h

mutual

theorem Select.spellOut_explicit (catalog : Catalog) : (q : Select Unit) → (q.spellOut catalog).Explicit
  | ⟨projections, source, _, _, _, _⟩ => by
    refine ⟨fun p hp => ?_, Source.spellOut_explicit catalog source⟩
    obtain ⟨_, _, hp⟩ := List.mem_flatMap.mp hp
    exact ne_star_of_spellOut hp

theorem Source.spellOut_explicit (catalog : Catalog) : (source : Source Unit) →
    (source.spellOut catalog).Explicit
  | .nothing | .buffer _ _ | .download _ _ _ _ => trivial
  | .downloadEach _ urls _ _ => Select.spellOut_explicit catalog urls

end

/-! ## 4. Statements -/

-- The names of the columns that can be filled stand for their indices.
theorem nameTargets_of_columns {schema : Schema} (hschema : schema.Spellable) {buffer : String}
    {position : Position} {indices : List Nat} {columns : List BufferColumn}
    (h : List.Forall₂ (fun i c => schema.columns[i]? = some c) indices columns)
    (hfree : ∀ c ∈ columns, c.identity = false) {targets : List Nat} (hnodup : (targets ++ indices).Nodup) :
    nameTargets buffer schema position (columns.map BufferColumn.name) targets =
      .ok (targets ++ indices) := by
  induction h generalizing targets with
  | nil => rw [List.append_nil]; rfl
  | @cons i c indices columns hc h ih =>
    have hnew : i ∉ targets := fun hmem =>
      (List.nodup_append.mp hnodup).2.2 i hmem i List.mem_cons_self rfl
    rw [List.append_cons] at hnodup ⊢
    exact nameTargets_cons_eq_ok.mpr ⟨i, c, hschema.position? hc, hc, hfree c List.mem_cons_self, hnew,
      ih (fun d hd => hfree d (List.mem_cons_of_mem c hd)) hnodup⟩

theorem insertable_columns (schema : Schema) :
    List.Forall₂ (fun i c => schema.columns[i]? = some c) schema.insertable
      (schema.columns.filter fun c => !c.identity) := by
  refine List.rel_filter (fun i c hc => ?_) (forall₂_range schema.columns)
  simp only [hc]
  rfl

-- The list that an insert without one stands for has the same targets.
theorem insertTargets_spellOut {schema : Schema} (hschema : schema.Spellable) {buffer : String}
    {columns : Option (List String)} {position : Position} {targets : List Nat}
    (h : insertTargets buffer schema columns position = .ok targets) :
    insertTargets buffer schema (columns <|> some schema.insertableNames) position = .ok targets := by
  cases columns with
  | some names => exact h
  | none =>
    cases h
    refine nameTargets_of_columns hschema (insertable_columns schema) (fun c hc => ?_)
      (List.nodup_range.filter _)
    simpa using (List.mem_filter.mp hc).2

-- A declaration with distinct names can be named column by column.
theorem spellable_of_declaredSchema {buffer : String} {decls : List ColumnDecl} {schema : Schema}
    (h : declaredSchema buffer decls = .ok schema) (hne : decls ≠ []) (hnormal : ∀ c ∈ decls, c.Normal)
    (hdistinct : decls.Pairwise fun c d => Text.sameName c.name d.name = false) : schema.Spellable := by
  have hnames := names_of_declaredSchema h
  refine ⟨?_, fun c hc => ?_, fun hnil => hne ?_⟩
  · have hpairwise : (decls.map ColumnDecl.name).Pairwise fun m n => Text.sameName m n = false :=
      List.pairwise_map.mpr hdistinct
    rw [← hnames] at hpairwise
    exact List.pairwise_map.mp hpairwise
  · have hmem := List.mem_map_of_mem (f := BufferColumn.name) hc
    rw [hnames] at hmem
    obtain ⟨d, hd, hname⟩ := List.mem_map.mp hmem
    exact hname ▸ (hnormal d hd).name
  · rw [hnil] at hnames
    exact List.map_eq_nil_iff.mp hnames.symm

theorem Catalog.Spellable.declare {catalog : Catalog} (h : catalog.Spellable) {s : Statement Unit}
    (hnormal : s.Normal) (hdistinct : s.DistinctNames) : (s.declare catalog).Spellable := by
  cases s with
  | insert _ _ _ _ | select _ => exact h
  | createBuffer name columns position =>
    intro other schema hfind
    unfold Statement.declare Catalog.find? at hfind
    rw [List.lookup_append, Option.or_eq_some_iff] at hfind
    rcases hfind with hfind | ⟨_, hfind⟩
    · exact h other schema hfind
    · cases hschema : declaredSchema name columns with
      | error e =>
        rw [hschema] at hfind
        cases hfind
      | ok declared =>
        rw [hschema] at hfind
        change List.lookup other [(name, declared)] = some schema at hfind
        rw [List.lookup_cons] at hfind
        cases hother : other == name with
        | false =>
          rw [hother] at hfind
          cases hfind
        | true =>
          rw [hother] at hfind
          cases hfind
          exact spellable_of_declaredSchema hschema hnormal.2.1 hnormal.2.2 hdistinct

-- The buffers after a statement that was settled.
theorem declare_of_settle {catalog after : Catalog} {s : Statement Unit} {settled : Statement Settled}
    (h : s.settle catalog = .ok (settled, after)) : after = s.declare catalog := by
  cases s with
  | createBuffer name columns position =>
    unfold Statement.settle at h
    obtain ⟨_, h⟩ := Except.ok_of_check h
    obtain ⟨schema, hschema, h⟩ := Except.bind_eq_ok.mp h
    cases h
    rw [Statement.declare, hschema]
    rfl
  | insert target columns query position =>
    obtain ⟨_, _, _, _, _, _, _, _, _, rfl⟩ := settle_insert_eq_ok.mp h
    rfl
  | select query =>
    obtain ⟨_, _, h⟩ := Except.bind_eq_ok.mp h
    cases h
    rfl

/-- A statement written out is settled as the statement is, and has the same step. -/
theorem Statement.spellOut_settle {catalog after : Catalog} (hcatalog : catalog.Spellable)
    {s : Statement Unit} {settled : Statement Settled} (h : s.settle catalog = .ok (settled, after)) :
    ∃ settled', (s.spellOut catalog).settle catalog = .ok (settled', after) ∧
      Step.ofStatement catalog settled' = Step.ofStatement catalog settled := by
  cases s with
  | createBuffer name columns position => exact ⟨settled, h, rfl⟩
  | insert target columns query position =>
    obtain ⟨schema, query', targets, hschema, hquery, htargets, hlength, hcheck, rfl, rfl⟩ :=
      settle_insert_eq_ok.mp h
    obtain ⟨query'', hquery'', hnote, hstep⟩ := Select.spellOut_settle hcatalog query hquery
    have hspelled := insertTargets_spellOut (hcatalog target schema hschema) htargets
    refine ⟨.insert target (columns <|> some schema.insertableNames) query'' position, ?_, ?_⟩
    · rw [Statement.spellOut, hschema]
      exact settle_insert_eq_ok.mpr ⟨schema, query'', targets, hschema, hquery'', hspelled, hnote ▸ hlength,
        hnote ▸ hcheck, rfl, rfl⟩
    · unfold Step.ofStatement
      simp only [hschema]
      rw [htargets, hspelled, hstep]
  | select query =>
    obtain ⟨query', hquery, h⟩ := Except.bind_eq_ok.mp h
    cases h
    obtain ⟨query'', hquery'', _, hstep⟩ := Select.spellOut_settle hcatalog query hquery
    refine ⟨.select query'', Except.bind_eq_ok.mpr ⟨query'', hquery'', rfl⟩, ?_⟩
    rw [Step.ofStatement, Step.ofStatement, hstep]

-- A statement that can be written can be written out.
theorem Statement.spellOut_normal {catalog after : Catalog} (hcatalog : catalog.Spellable)
    {s : Statement Unit} (hnormal : s.Normal) {settled : Statement Settled}
    (h : s.settle catalog = .ok (settled, after)) :
    (s.spellOut catalog).Normal ∧ (s.spellOut catalog).Explicit := by
  cases s with
  | createBuffer name columns position => exact ⟨hnormal, trivial⟩
  | insert target columns query position =>
    obtain ⟨schema, query', targets, hschema, hquery, htargets, hlength, _, _, _⟩ := settle_insert_eq_ok.mp h
    obtain ⟨htarget, hnames, hqueryNormal⟩ := hnormal
    obtain ⟨hspelled, hcolumns⟩ := Select.spellOut_normal hcatalog query hqueryNormal hquery
    rw [Statement.spellOut, hschema]
    refine ⟨⟨htarget, ?_, hspelled⟩, ?_, Select.spellOut_explicit catalog query⟩
    · cases columns with
      | some names => exact hnames
      | none =>
        rintro _ ⟨⟩
        cases htargets
        refine ⟨fun hnil => ?_, fun name hname => ?_⟩
        · -- The select has a column, so that there is one to fill.
          have hfilter := List.map_eq_nil_iff.mp hnil
          have hcount := (insertable_columns schema).length_eq
          rw [hfilter, hlength] at hcount
          exact hcolumns (List.length_eq_zero_iff.mp hcount)
        · obtain ⟨c, hc, rfl⟩ := List.mem_map.mp hname
          exact (hcatalog target schema hschema).names c (List.mem_filter.mp hc).1
    · cases columns <;> rfl
  | select query =>
    obtain ⟨query', hquery, _⟩ := Except.bind_eq_ok.mp h
    exact ⟨(Select.spellOut_normal hcatalog query hnormal hquery).1, Select.spellOut_explicit catalog query⟩

/-! ## 5. Scripts -/

-- By induction on the statements: both scripts declare the same buffers, whose columns can be named.
theorem Program.spellOut_settle {catalog : Catalog} (hcatalog : catalog.Spellable) {program : Program Unit}
    (hnormal : program.Normal) (hdistinct : ∀ s ∈ program, s.DistinctNames) {settled : Program Settled}
    (h : settleFrom catalog program = .ok settled) :
    ∃ settled', settleFrom catalog (program.spellOutFrom catalog) = .ok settled' ∧
      generateFrom catalog settled' = generateFrom catalog settled ∧
      ∀ s ∈ program.spellOutFrom catalog, s.Normal ∧ s.Explicit := by
  induction program generalizing catalog settled with
  | nil =>
    cases h
    exact ⟨[], rfl, rfl, fun _ hs => absurd hs List.not_mem_nil⟩
  | cons s rest ih =>
    obtain ⟨hs, hrest⟩ := List.forall_mem_cons.mp hnormal
    obtain ⟨hsDistinct, hrestDistinct⟩ := List.forall_mem_cons.mp hdistinct
    unfold settleFrom at h
    obtain ⟨⟨s', after⟩, hsettle, h⟩ := Except.bind_eq_ok.mp h
    obtain ⟨rest', hsettleRest, h⟩ := Except.bind_eq_ok.mp h
    cases h
    obtain rfl := declare_of_settle hsettle
    obtain ⟨s'', hsettle'', hstep⟩ := Statement.spellOut_settle hcatalog hsettle
    obtain ⟨rest'', hrest'', hplan, hall⟩ :=
      ih (hcatalog.declare hs hsDistinct) hrest hrestDistinct hsettleRest
    obtain ⟨step, hof, _, _⟩ := ofStatement_of_settle hsettle
    refine ⟨s'' :: rest'', ?_, ?_, List.forall_mem_cons.mpr
      ⟨Statement.spellOut_normal hcatalog hs hsettle, hall⟩⟩
    · rw [Program.spellOutFrom, settleFrom]
      exact Except.bind_eq_ok.mpr ⟨_, hsettle'', Except.bind_eq_ok.mpr ⟨rest'', hrest'', rfl⟩⟩
    · rw [generateFrom, generateFrom, hstep, hof]
      show (generateFrom _ rest'' >>= _) = (generateFrom _ rest' >>= _)
      rw [hplan]

theorem Program.Normal.compiles {program : Program Unit} (h : program.Normal) {plan : Plan}
    (hplan : program.plan = .ok plan) : program.Compiles plan where
  planned := hplan
  reads source p hparse hplaces := compile_eq_ok.mpr ⟨p, hparse, plan_of_unplaced hplaces hplan⟩
  prints source ts hts htokens := by
    obtain ⟨p, hparse, hplaces⟩ := h.rereads.parses source ts hts htokens
    exact compile_eq_ok.mpr ⟨p, hparse, plan_of_unplaced hplaces hplan⟩

/-- Short forms mean what they stand for. In a script that compiles, and in which the columns of each buffer
have distinct names, all stars and all lists of inserts can be written out, and the scripts that result have
the same plan. -/
theorem spellOut_compiles {source : String} {program : Program Unit} {plan : Plan}
    (hparse : parseProgram source = .ok program) (hcompile : compile source = .ok plan)
    (hdistinct : ∀ s ∈ program, s.DistinctNames) :
    (∀ s ∈ program.spellOut, s.Explicit) ∧ program.spellOut.Compiles plan := by
  obtain ⟨program', hparse', hplan⟩ := compile_eq_ok.mp hcompile
  rw [hparse] at hparse'
  cases hparse'
  obtain ⟨settled, hsettle, hgenerate⟩ := Except.bind_eq_ok.mp hplan
  have hempty : Catalog.Spellable [] := fun _ _ hfind => by cases hfind
  obtain ⟨settled', hsettle', hplan', hall⟩ :=
    Program.spellOut_settle hempty (normal_of_parseProgram hparse) hdistinct hsettle
  have hspelled : program.spellOut.plan = .ok plan :=
    Except.bind_eq_ok.mpr ⟨settled', hsettle', hplan'.trans hgenerate⟩
  exact ⟨fun s hs => (hall s hs).2, Program.Normal.compiles (fun s hs => (hall s hs).1) hspelled⟩

/-- Both scripts have the plan. The short one has two stars and an insert that leaves out the identity. -/
theorem spellOut_compiles_identity :
    ∃ plan, compile ("create buffer t(id identity, n int)\ninsert into t select 1\n" ++
        "select *, n as m from t\nselect * from download page 'a'") = .ok plan ∧
      compile ("create buffer t(id identity, n int)\ninsert into t (n) select 1\n" ++
        "select id, n, n as m from t\nselect url, size, date from download page 'a'") = .ok plan := by
  let program : Program Unit :=
    [.createBuffer "t" [⟨"id", "identity", true, ⟨1, 17⟩⟩, ⟨"n", "int", false, ⟨1, 30⟩⟩] ⟨1, 1⟩,
      .insert "t" none ⟨[.item (.literal (.integer 1)) none], .nothing, none, [], ⟨2, 15⟩, ()⟩ ⟨2, 1⟩,
      .select ⟨[.star ⟨3, 8⟩, .item (.column "n" ⟨3, 11⟩) (some "m")], .buffer "t" ⟨3, 23⟩, none, [],
        ⟨3, 1⟩, ()⟩,
      .select ⟨[.star ⟨4, 8⟩], .download .page "a" [] ⟨4, 15⟩, none, [], ⟨4, 1⟩, ()⟩]
  let written : Program Unit :=
    [.createBuffer "t" [⟨"id", "identity", true, ⟨1, 17⟩⟩, ⟨"n", "int", false, ⟨1, 30⟩⟩] ⟨1, 1⟩,
      .insert "t" (some ["n"]) ⟨[.item (.literal (.integer 1)) none], .nothing, none, [], ⟨2, 19⟩, ()⟩ ⟨2, 1⟩,
      .select ⟨[.item (.column "id" ⟨3, 8⟩) none, .item (.column "n" ⟨3, 12⟩) none,
        .item (.column "n" ⟨3, 15⟩) (some "m")], .buffer "t" ⟨3, 27⟩, none, [], ⟨3, 1⟩, ()⟩,
      .select ⟨[.item (.column "url" ⟨4, 8⟩) none, .item (.column "size" ⟨4, 13⟩) none,
        .item (.column "date" ⟨4, 19⟩) none], .download .page "a" [] ⟨4, 29⟩, none, [], ⟨4, 1⟩, ()⟩]
  have hparse : parseProgram ("create buffer t(id identity, n int)\ninsert into t select 1\n" ++
        "select *, n as m from t\nselect * from download page 'a'") = .ok program := by decide +kernel
  have hwritten : parseProgram ("create buffer t(id identity, n int)\ninsert into t (n) select 1\n" ++
        "select id, n, n as m from t\nselect url, size, date from download page 'a'") = .ok written := by
    decide +kernel
  obtain ⟨plan, hplan⟩ : ∃ plan, program.plan = .ok plan := ⟨_, by cbv⟩
  have hcompile := compile_eq_ok.mpr ⟨program, hparse, hplan⟩
  have hdistinct : ∀ s ∈ program, s.DistinctNames := by decide +kernel
  obtain ⟨_, hspelled⟩ := spellOut_compiles hparse hcompile hdistinct
  exact ⟨plan, hcompile, hspelled.reads _ written hwritten (by cbv)⟩

end Quarry
