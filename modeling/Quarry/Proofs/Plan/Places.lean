import Quarry.Proofs.Plan.Generation
import Quarry.Proofs.Script.Printer

/-!
# Places and plans

Analysis and the generator read places only to say where an error is. The same script at other places is
settled to the same script at those places, has the same plan, and is refused for the same fault, the place
of which has moved with the script.
-/

namespace Quarry

open Script

variable {α β γ δ : Type} {f : Position → Position}

/-! ## 1. Definitions -/

section Definitions

variable (f : Position → Position)

/-- The same error at another place. -/
def CompileError.relocate (e : CompileError) : CompileError := { e with position := f e.position }

/-- What a pass gives for a script at other places, if it reads no place: the same result, up to the places
within it, or the same error elsewhere. -/
def moved (g : α → β) : Except CompileError α → Except CompileError β
  | .ok a => .ok (g a)
  | .error e => .error (e.relocate f)

end Definitions

/-! ## 2. Sequences -/

-- Two steps that read no place do not read one together.
theorem moved_bind {g : α → β} {g' : γ → δ} {x : Except CompileError α} {y : Except CompileError β}
    {k : α → Except CompileError γ} {k' : β → Except CompileError δ} (hx : y = moved f g x)
    (h : ∀ a, k' (g a) = moved f g' (k a)) : y >>= k' = moved f g' (x >>= k) := by
  rw [hx]
  cases x with
  | error e => rfl
  | ok a => exact h a

theorem moved_map {g : α → β} {g' : γ → δ} {x : Except CompileError α} {y : Except CompileError β}
    {k : α → γ} {k' : β → δ} (hx : y = moved f g x) (h : ∀ a, k' (g a) = g' (k a)) :
    k' <$> y = moved f g' (k <$> x) := by
  rw [hx]
  cases x with
  | error e => rfl
  | ok a => exact congrArg Except.ok (h a)

-- A check that reads no place fails elsewhere as it does here.
theorem moved_check {p : Prop} {_ : Decidable p} {g : α → β} {position : Position} {fault : CompileFault}
    {k : γ → Except CompileError α} {k' : γ → Except CompileError β} {x : Except CompileError α}
    {y : Except CompileError β} (h : y = moved f g x) :
    (if p then throw ⟨f position, fault⟩ >>= k' else y) =
      moved f g (if p then throw ⟨position, fault⟩ >>= k else x) := by
  by_cases hp : p
  · rw [if_pos hp, if_pos hp]
    rfl
  · rw [if_neg hp, if_neg hp]
    exact h

theorem moved_mapM {p : α → α} {g : β → β} {k : α → Except CompileError β}
    (h : ∀ a, k (p a) = moved f g (k a)) (l : List α) :
    (l.map p).mapM k = moved f (List.map g) (l.mapM k) := by
  induction l with
  | nil => rfl
  | cons a l ih =>
    rw [List.map_cons, List.mapM_cons, List.mapM_cons]
    exact moved_bind (h a) fun b => moved_bind ih fun bs => rfl

/-! ## 3. Analysis -/

theorem joinBranch_relocate (position : Position) (sofar found : ValueType) :
    joinBranch (f position) sofar found = moved f id (joinBranch position sofar found) := by
  unfold joinBranch
  cases sofar.unify? found <;> rfl

mutual

theorem infer_relocate (scope : Scope) : (e : Expr) →
    (e.relocate f).infer scope = moved f id (e.infer scope)
  | .literal value => rfl
  | .column name position => by
    rw [Expr.relocate, Expr.infer, Expr.infer]
    cases scope.columnType? name <;> rfl
  | .pick pick position => rfl
  | .simpleCase subject branches position => by
    rw [Expr.relocate, Expr.infer, Expr.infer]
    exact moved_bind (infer_relocate scope subject) fun _ => infer_branches_relocate scope branches
  | .searchedCase branches position => by
    rw [Expr.relocate, Expr.infer, Expr.infer]
    exact infer_branches_relocate scope branches
  | .binary op left right position => by
    rw [Expr.relocate, Expr.infer, Expr.infer]
    refine moved_bind (infer_relocate scope left) fun l =>
      moved_bind (infer_relocate scope right) fun r => ?_
    show (match op.type? l r with
      | some t => _
      | none => _) = _
    cases op.type? l r <;> rfl
  | .not operand => by
    rw [Expr.relocate, Expr.infer, Expr.infer]
    exact moved_bind (infer_relocate scope operand) fun _ => rfl

theorem infer_branches_relocate (scope : Scope) {position : Position} {sofar : ValueType} :
    (b : Branches) → (b.relocate f).infer scope (f position) sofar =
      moved f id (b.infer scope position sofar)
  | .done => rfl
  | .otherwise result => by
    rw [Branches.relocate, Branches.infer, Branches.infer]
    exact moved_bind (infer_relocate scope result) fun found => joinBranch_relocate position sofar found
  | .branch condition result rest => by
    rw [Branches.relocate, Branches.infer, Branches.infer]
    exact moved_bind (infer_relocate scope condition) fun _ =>
      moved_bind (infer_relocate scope result) fun found =>
        moved_bind (joinBranch_relocate position sofar found) fun _ => infer_branches_relocate scope rest

end

mutual

theorem picks_relocate : (e : Expr) → (e.relocate f).picks = e.picks.map f
  | .literal _ | .column _ _ | .pick _ _ => rfl
  | .simpleCase subject branches _ => by
    rw [Expr.relocate, Expr.picks, Expr.picks, picks_relocate subject, picks_branches_relocate branches,
      List.map_append]
  | .searchedCase branches _ => picks_branches_relocate branches
  | .binary _ left right _ => by
    rw [Expr.relocate, Expr.picks, Expr.picks, picks_relocate left, picks_relocate right,
      List.map_append]
  | .not operand => picks_relocate operand

theorem picks_branches_relocate : (b : Branches) → (b.relocate f).picks = b.picks.map f
  | .done => rfl
  | .otherwise result => picks_relocate result
  | .branch condition result rest => by
    rw [Branches.relocate, Branches.picks, Branches.picks, picks_relocate condition,
      picks_relocate result, picks_branches_relocate rest, List.map_append, List.map_append]

end

theorem projectionColumns_relocate (scope : Scope) (p : Projection) :
    projectionColumns scope (p.relocate f) = moved f id (projectionColumns scope p) := by
  cases p with
  | star position => cases scope <;> rfl
  | item e label =>
    have hname : (e.relocate f).name? = e.name? := by cases e <;> rfl
    show ((e.relocate f).infer scope >>= _) = moved f id (e.infer scope >>= _)
    refine moved_bind (infer_relocate scope e) fun t => ?_
    rw [hname]
    rfl

theorem selectColumns_relocate (scope : Scope) (projections : List Projection) :
    selectColumns scope (projections.map (Projection.relocate f)) =
      moved f id (selectColumns scope projections) := by
  refine moved_bind (moved_mapM (projectionColumns_relocate scope) projections) fun columns => ?_
  rw [List.map_id]
  rfl

theorem nodesSelector?_relocate (e : Expr) : (e.relocate f).nodesSelector? = e.nodesSelector? := by
  cases e with
  | binary op left right position =>
    cases left with
    | column name place =>
      cases right with
      | literal value => cases op <;> cases value <;> rfl
      | _ => cases op <;> rfl
    | _ => cases op <;> rfl
  | _ => rfl

theorem conjoin_relocate (position : Position) (left right : Option Expr) :
    Expr.conjoin (f position) (left.map (Expr.relocate f)) (right.map (Expr.relocate f)) =
      (Expr.conjoin position left right).map (Expr.relocate f) := by
  cases left <;> cases right <;> rfl

-- An expression that joins no conditions joins none elsewhere.
theorem relocate_ne_and {e : Expr} (h : ∀ left right position, e = .binary .and left right position → False) :
    ∀ left right position, e.relocate f = .binary .and left right position → False := by
  cases e with
  | binary op left right position =>
    rintro _ _ _ ⟨⟩
    exact h left right position rfl
  | _ => rintro _ _ _ ⟨⟩

theorem liftNodes_relocate (e : Expr) :
    (e.relocate f).liftNodes = (e.liftNodes.1, e.liftNodes.2.map (Expr.relocate f)) := by
  induction e using Expr.liftNodes.induct with
  | case1 left right position selector rest hleft ihleft =>
    rw [hleft] at ihleft
    rw [Expr.relocate, Expr.liftNodes, Expr.liftNodes, hleft, ihleft]
    exact congrArg (Prod.mk (some selector)) (conjoin_relocate position rest (some right))
  | case2 left right position rest hleft selector rest' hright ihleft ihright =>
    rw [hleft] at ihleft
    rw [hright] at ihright
    rw [Expr.relocate, Expr.liftNodes, Expr.liftNodes, hleft, ihleft, hright]
    simp only [ihright]
    exact congrArg (Prod.mk selector) (conjoin_relocate position rest rest')
  | case3 e hnot selector hselector =>
    rw [Expr.liftNodes.eq_2 _ hnot, Expr.liftNodes.eq_2 _ (relocate_ne_and hnot), nodesSelector?_relocate,
      hselector]
    rfl
  | case4 e hnot hselector =>
    rw [Expr.liftNodes.eq_2 _ hnot, Expr.liftNodes.eq_2 _ (relocate_ne_and hnot), nodesSelector?_relocate,
      hselector]
    rfl

theorem splitFilter_relocate (scope : Scope) (filter : Option Expr) :
    splitFilter scope (filter.map (Expr.relocate f)) =
      ((splitFilter scope filter).1, (splitFilter scope filter).2.map (Expr.relocate f)) := by
  cases filter with
  | none => cases scope <;> rfl
  | some e => cases scope <;> first | exact liftNodes_relocate e | rfl

theorem settleHints_relocate (hints : List Hint) :
    settleHints (hints.map (Hint.relocate f)) = moved f id (settleHints hints) := by
  induction hints with
  | nil => rfl
  | cons hint rest ih =>
    cases hint with
    | js => exact moved_bind ih fun _ => rfl
    | thread count position =>
      rw [List.map_cons, Hint.relocate, settleHints, settleHints]
      by_cases hcount : count.toInt < 1
      · rw [if_pos hcount, if_pos hcount]
        rfl
      · rw [if_neg hcount, if_neg hcount]
        exact moved_bind ih fun _ => rfl

theorem flatMap_picks_relocate (projections : List Projection) :
    (projections.map (Projection.relocate f)).flatMap Projection.picks =
      (projections.flatMap Projection.picks).map f := by
  rw [List.flatMap_map, List.map_flatMap]
  refine List.flatMap_congr fun p _ => ?_
  cases p with
  | star position => rfl
  | item e label => exact picks_relocate e

theorem checkPicks_relocate (scope : Scope) (projections : List Projection) (filter : Option Expr) :
    checkPicks scope (projections.map (Projection.relocate f)) (filter.map (Expr.relocate f)) =
      moved f id (checkPicks scope projections filter) := by
  have hfilter : ((filter.map (Expr.relocate f)).map Expr.picks).getD [] =
      ((filter.map Expr.picks).getD []).map f := by
    cases filter with
    | none => rfl
    | some e => exact picks_relocate e
  unfold checkPicks
  rw [flatMap_picks_relocate, hfilter, ← List.map_append]
  by_cases hpage : scope = .page
  · rw [if_pos hpage, if_pos hpage]
    rfl
  · rw [if_neg hpage, if_neg hpage]
    cases projections.flatMap Projection.picks ++ (filter.map Expr.picks).getD [] <;> rfl

theorem checkFilter_relocate (scope : Scope) (filter : Option Expr) :
    checkFilter scope (filter.map (Expr.relocate f)) = moved f id (checkFilter scope filter) := by
  cases filter with
  | none => rfl
  | some e => exact moved_bind (infer_relocate scope e) fun _ => rfl

theorem scope_relocate {ν : Type} (catalog : Catalog) (source : Source ν) :
    Scope.ofSource catalog (source.relocate f) = moved f id (Scope.ofSource catalog source) := by
  cases source with
  | nothing => rfl
  | buffer name position =>
    rw [Source.relocate, Scope.ofSource, Scope.ofSource]
    cases catalog.find? name <;> rfl
  | download kind url hints position => cases kind <;> rfl
  | downloadEach kind urls hints position => cases kind <;> rfl

theorem downloadHints_relocate {ν : Type} (source : Source ν) :
    downloadHints (source.relocate f) = (downloadHints source).map (Hint.relocate f) := by
  cases source <;> rfl

-- What a settled select carries has no places, and the select has the place that it had.
theorem note_relocate {ν : Type} (q : Select ν) : (q.relocate f).note = q.note := by
  cases q
  rfl

theorem position_relocate {ν : Type} (q : Select ν) : (q.relocate f).position = f q.position := by
  cases q
  rfl

mutual

theorem Select.settle_relocate (catalog : Catalog) : (q : Select Unit) →
    (q.relocate f).settle catalog = moved f (Select.relocate f) (q.settle catalog)
  | ⟨projections, source, filter, hints, position, note⟩ => by
    rw [Select.relocate, settle_eq, settle_eq]
    refine moved_bind (Source.settle_relocate catalog source) fun source' =>
      moved_bind (scope_relocate catalog source') fun scope => ?_
    rw [downloadHints_relocate, ← List.map_append]
    refine moved_bind (settleHints_relocate _) fun ⟨threads, js⟩ => ?_
    simp only [id, splitFilter_relocate]
    refine moved_bind (checkPicks_relocate scope projections _) fun _ =>
      moved_bind (selectColumns_relocate scope projections) fun columns =>
        moved_bind (checkFilter_relocate scope _) fun _ => ?_
    rfl

theorem Source.settle_relocate (catalog : Catalog) : (source : Source Unit) →
    (source.relocate f).settle catalog = moved f (Source.relocate f) (source.settle catalog)
  | .nothing => rfl
  | .buffer _ _ => rfl
  | .download .. => rfl
  | .downloadEach kind urls hints position => by
    rw [Source.relocate, Source.settle, Source.settle]
    refine moved_bind (Select.settle_relocate catalog urls) fun urls' => ?_
    rw [note_relocate, position_relocate]
    by_cases hone : urls'.note.columns.length = 1
    · simp only [hone]
      rfl
    · simp only [if_pos hone]
      rfl

end

theorem declareColumns_relocate (buffer : String) (decls : List ColumnDecl) (columns : List BufferColumn) :
    declareColumns buffer (decls.map (ColumnDecl.relocate f)) columns =
      moved f id (declareColumns buffer decls columns) := by
  induction decls generalizing columns with
  | nil => rfl
  | cons d rest ih =>
    rw [List.map_cons, declareColumns, declareColumns]
    obtain ⟨name, typeName, identity, position⟩ := d
    simp only [ColumnDecl.relocate]
    cases ValueType.ofName? typeName with
    | none => rfl
    | some type =>
      cases identity with
      | false => exact ih _
      | true => exact moved_check (moved_check (ih _))

theorem declaredSchema_relocate (buffer : String) (decls : List ColumnDecl) :
    declaredSchema buffer (decls.map (ColumnDecl.relocate f)) = moved f id (declaredSchema buffer decls) :=
  moved_map (declareColumns_relocate buffer decls []) fun _ => rfl

theorem nameTargets_relocate (buffer : String) (schema : Schema) (position : Position) (names : List String)
    (targets : List Nat) : nameTargets buffer schema (f position) names targets =
      moved f id (nameTargets buffer schema position names targets) := by
  induction names generalizing targets with
  | nil => rfl
  | cons name rest ih =>
    rw [nameTargets, nameTargets]
    cases schema.position? name with
    | none => rfl
    | some index => exact moved_check (moved_check (ih _))

theorem insertTargets_relocate (buffer : String) (schema : Schema) (columns : Option (List String))
    (position : Position) : insertTargets buffer schema columns (f position) =
      moved f id (insertTargets buffer schema columns position) := by
  cases columns with
  | none => rfl
  | some names => exact nameTargets_relocate buffer schema position names []

theorem checkTypes_relocate (buffer : String) (schema : Schema) (position : Position)
    (targets : List (Nat × Column)) : checkTypes buffer schema (f position) targets =
      moved f id (checkTypes buffer schema position targets) := by
  induction targets with
  | nil => rfl
  | cons target rest ih =>
    rw [checkTypes, checkTypes]
    cases schema.columns[target.1]? with
    | none => exact ih
    | some column =>
      by_cases haccepts : column.type.accepts target.2.type = true
      · simp only [haccepts, if_true]
        exact ih
      · simp only [haccepts]
        rfl

theorem Statement.settle_relocate (catalog : Catalog) (s : Statement Unit) :
    (s.relocate f).settle catalog = moved f (Prod.map (Statement.relocate f) id) (s.settle catalog) := by
  cases s with
  | createBuffer name columns position =>
    rw [Statement.relocate, Statement.settle, Statement.settle]
    refine moved_check ?_
    exact moved_bind (declaredSchema_relocate name columns) fun _ => rfl
  | insert target columns query position =>
    rw [Statement.relocate, Statement.settle, Statement.settle]
    cases catalog.find? target with
    | none => rfl
    | some schema =>
      refine moved_bind (Select.settle_relocate catalog query) fun query' =>
        moved_bind (insertTargets_relocate target schema columns position) fun targets => ?_
      rw [note_relocate]
      refine moved_check ?_
      exact moved_bind (checkTypes_relocate target schema position _) fun _ => rfl
  | select query => exact moved_bind (Select.settle_relocate catalog query) fun _ => rfl

theorem settleFrom_relocate (catalog : Catalog) (program : Program Unit) :
    settleFrom catalog (program.relocate f) = moved f (Program.relocate f) (settleFrom catalog program) := by
  induction program generalizing catalog with
  | nil => rfl
  | cons s rest ih =>
    show ((s.relocate f).settle catalog >>= _) = _
    refine moved_bind (Statement.settle_relocate catalog s) fun ⟨s', after⟩ => ?_
    exact moved_bind (ih after) fun _ => rfl

/-! ## 4. Plans -/

theorem ofName_relocate (scope : Scope) (name : String) (position : Position) :
    Operand.ofName scope name (f position) = moved f id (Operand.ofName scope name position) := by
  cases scope with
  | empty | json => rfl
  | buffer schema =>
    simp only [Operand.ofName]
    cases schema.position? name <;> rfl
  | page | image =>
    simp only [Operand.ofName]
    cases Scope.field? _ name <;> rfl

mutual

theorem ofExpr_relocate (scope : Scope) : (e : Expr) →
    Operand.ofExpr scope (e.relocate f) = moved f id (Operand.ofExpr scope e)
  | .literal _ => rfl
  | .column name position => ofName_relocate scope name position
  | .pick _ _ => rfl
  | .simpleCase subject branches _ => by
    rw [Expr.relocate, Operand.ofExpr, Operand.ofExpr]
    exact moved_bind (ofExpr_relocate scope subject) fun _ =>
      moved_bind (ofBranches_relocate scope branches) fun _ => rfl
  | .searchedCase branches _ => by
    rw [Expr.relocate, Operand.ofExpr, Operand.ofExpr]
    exact moved_map (ofBranches_relocate scope branches) fun _ => rfl
  | .binary _ left right _ => by
    rw [Expr.relocate, Operand.ofExpr, Operand.ofExpr]
    exact moved_bind (ofExpr_relocate scope left) fun _ =>
      moved_bind (ofExpr_relocate scope right) fun _ => rfl
  | .not operand => by
    rw [Expr.relocate, Operand.ofExpr, Operand.ofExpr]
    exact moved_map (ofExpr_relocate scope operand) fun _ => rfl

theorem ofBranches_relocate (scope : Scope) : (b : Branches) →
    Arms.ofBranches scope (b.relocate f) = moved f id (Arms.ofBranches scope b)
  | .done => rfl
  | .otherwise result => by
    rw [Branches.relocate, Arms.ofBranches, Arms.ofBranches]
    exact moved_map (ofExpr_relocate scope result) fun _ => rfl
  | .branch condition result rest => by
    rw [Branches.relocate, Arms.ofBranches, Arms.ofBranches]
    exact moved_bind (ofExpr_relocate scope condition) fun _ =>
      moved_bind (ofExpr_relocate scope result) fun _ =>
        moved_bind (ofBranches_relocate scope rest) fun _ => rfl

end

theorem projectionOperands_relocate (scope : Scope) (p : Projection) :
    projectionOperands scope (p.relocate f) = moved f id (projectionOperands scope p) := by
  cases p with
  | star position => cases scope <;> rfl
  | item e label => exact moved_bind (ofExpr_relocate scope e) fun _ => rfl

theorem filter_relocate (scope : Scope) (filter : Option Expr) :
    (filter.map (Expr.relocate f)).mapM (Operand.ofExpr scope) =
      moved f id (filter.mapM (Operand.ofExpr scope)) := by
  cases filter with
  | none => rfl
  | some e =>
    rw [Option.map_some, Option.mapM_some, Option.mapM_some]
    exact moved_map (ofExpr_relocate scope e) fun _ => rfl

mutual

theorem ofSelect_relocate (catalog : Catalog) : (q : Select Settled) →
    SelectStep.ofSelect catalog (q.relocate f) = moved f id (SelectStep.ofSelect catalog q)
  | ⟨projections, source, filter, hints, position, note⟩ => by
    rw [Select.relocate, SelectStep.ofSelect, SelectStep.ofSelect]
    refine moved_bind (scope_relocate catalog source) fun scope =>
      moved_bind (moved_mapM (projectionOperands_relocate scope) projections) fun operands =>
        moved_bind (filter_relocate scope filter) fun condition =>
          moved_bind (ofSource_relocate catalog _ source) fun step => ?_
    rw [List.map_id]
    rfl

theorem ofSource_relocate (catalog : Catalog) (options : FetchOptions) : (source : Source Settled) →
    SourceStep.ofSource catalog options (source.relocate f) =
      moved f id (SourceStep.ofSource catalog options source)
  | .nothing => rfl
  | .buffer _ _ => rfl
  | .download .. => rfl
  | .downloadEach kind urls _ _ => by
    rw [Source.relocate, SourceStep.ofSource, SourceStep.ofSource]
    exact moved_bind (ofSelect_relocate catalog urls) fun _ => rfl

end

theorem ofStatement_relocate (catalog : Catalog) (s : Statement Settled) :
    Step.ofStatement catalog (s.relocate f) = moved f id (Step.ofStatement catalog s) := by
  cases s with
  | createBuffer name columns position => exact moved_bind (declaredSchema_relocate name columns) fun _ => rfl
  | insert target columns query position =>
    rw [Statement.relocate, Step.ofStatement, Step.ofStatement]
    cases catalog.find? target with
    | none => rfl
    | some schema =>
      exact moved_bind (insertTargets_relocate target schema columns position) fun _ =>
        moved_bind (ofSelect_relocate catalog query) fun _ => rfl
  | select query => exact moved_bind (ofSelect_relocate catalog query) fun _ => rfl

theorem generateFrom_relocate (catalog : Catalog) (program : Program Settled) :
    generateFrom catalog (program.relocate f) = moved f id (generateFrom catalog program) := by
  induction program generalizing catalog with
  | nil => rfl
  | cons s rest ih =>
    show (Step.ofStatement catalog (s.relocate f) >>= _) = _
    refine moved_bind (ofStatement_relocate catalog s) fun ⟨step, after⟩ => ?_
    exact moved_bind (ih after) fun _ => rfl

/-- A program at other places has the same plan, or the same error elsewhere. -/
theorem plan_relocate (f : Position → Position) (program : Program Unit) :
    (program.relocate f).plan = moved f id program.plan :=
  moved_bind (settleFrom_relocate [] program) fun settled => generateFrom_relocate [] settled

theorem moved_eq_ok {g : α → β} {x : Except CompileError α} {b : β} :
    moved f g x = .ok b ↔ ∃ a, x = .ok a ∧ g a = b := by
  cases x with
  | error e => exact ⟨fun h => (nomatch h), fun ⟨_, h, _⟩ => (nomatch h)⟩
  | ok a => exact ⟨fun h => ⟨a, rfl, Except.ok.inj h⟩, fun ⟨_, ha, hb⟩ => by cases ha; exact congrArg _ hb⟩

-- Programs that are equal up to their places have the same plan.
theorem plan_of_unplaced {p q : Program Unit} {plan : Plan} (h : p.unplaced = q.unplaced)
    (hq : q.plan = .ok plan) : p.plan = .ok plan := by
  have hunplaced : p.unplaced.plan = .ok plan := by
    rw [h, Program.unplaced, plan_relocate, hq]
    rfl
  rw [Program.unplaced, plan_relocate] at hunplaced
  obtain ⟨_, hp, rfl⟩ := moved_eq_ok.mp hunplaced
  exact hp

end Quarry
