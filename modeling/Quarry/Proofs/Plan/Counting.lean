import Mathlib.Algebra.BigOperators.Group.List.Basic
import Mathlib.Algebra.GroupWithZero.Nat
import Mathlib.Data.List.Nodup
import Quarry.Command.Response
import Quarry.Proofs.Except
import Quarry.Proofs.Plan.Generation
import Quarry.Proofs.Run.Rows

/-!
# What a script holds

A check counts the parts of a settled script, and the counts are those of its plan. A plan lists an
extraction for each pick, and its lists miss none: each place where an extraction stands is listed once.
-/

namespace Quarry

open Script

/-! ## 1. Places of extractions -/

/-- The operands right below the branches of a case. -/
def Arms.operands : Arms → List Operand
  | .done => []
  | .otherwise result => [result]
  | .arm condition result rest => condition :: result :: rest.operands

/-- The operands right below an operand. -/
def Operand.children : Operand → List Operand
  | .simpleCase subject arms => subject :: arms.operands
  | .searchedCase arms => arms.operands
  | .binary _ left right => [left, right]
  | .not operand => [operand]
  | .literal _ | .column _ | .field _ | .property _ | .extract _ => []

/-- The operand at the end of a path. Each number of the path chooses one of the operands that are there,
and the path goes on right below it. -/
def operandAt? : List Operand → List Nat → Option Operand
  | _, [] => none
  | os, i :: path =>
    match os[i]? with
    | none => none
    | some o => if path.isEmpty then some o else operandAt? o.children path

/-- The list has one extraction for each path to one, and no path is left out or listed twice. -/
def ListsOnce (os : List Operand) (es : List Extraction) : Prop :=
  ∃ paths : List (List Nat), paths.Nodup ∧
    List.Forall₂ (fun path e => operandAt? os path = some (.extract e)) paths es ∧
    ∀ path e, operandAt? os path = some (.extract e) → path ∈ paths

/-- The path into operands that stand behind others. -/
def pathBehind (count : Nat) : List Nat → List Nat
  | [] => []
  | i :: path => (count + i) :: path

theorem pathBehind_injective (count : Nat) : Function.Injective (pathBehind count) := by
  intro p q h
  cases p with
  | nil =>
    cases q with
    | nil => rfl
    | cons j q => cases h
  | cons i p =>
    cases q with
    | nil => cases h
    | cons j q =>
      obtain ⟨hij, rfl⟩ := List.cons.inj h
      rw [Nat.add_left_cancel hij]

theorem operandAt?_append_left {os : List Operand} {i : Nat} (hi : i < os.length)
    (os' : List Operand) (path : List Nat) :
    operandAt? (os ++ os') (i :: path) = operandAt? os (i :: path) := by
  rw [operandAt?, operandAt?, List.getElem?_append_left hi]

theorem operandAt?_append_right (os os' : List Operand) (path : List Nat) :
    operandAt? (os ++ os') (pathBehind os.length path) = operandAt? os' path := by
  cases path with
  | nil => rfl
  | cons i path =>
    rw [pathBehind, operandAt?, operandAt?, List.getElem?_append_right (Nat.le_add_right _ _),
      Nat.add_sub_cancel_left]

-- A path leads to an operand only if it starts with one that is there.
theorem exists_cons_of_operandAt? {os : List Operand} {path : List Nat} {o : Operand}
    (h : operandAt? os path = some o) : ∃ i rest, path = i :: rest ∧ i < os.length := by
  cases path with
  | nil => cases h
  | cons i rest =>
    refine ⟨i, rest, rfl, Nat.lt_of_not_le fun hle => ?_⟩
    rw [operandAt?, List.getElem?_eq_none hle] at h
    cases h

theorem listsOnce_nil : ListsOnce [] [] := by
  refine ⟨[], List.nodup_nil, .nil, fun path e h => ?_⟩
  obtain ⟨i, _, _, hi⟩ := exists_cons_of_operandAt? h
  exact absurd hi (Nat.not_lt_zero i)

theorem listsOnce_extract (e : Extraction) : ListsOnce [.extract e] [e] := by
  refine ⟨[[0]], List.nodup_singleton _, .cons rfl .nil, fun path e' h => ?_⟩
  obtain ⟨i, rest, rfl, hi⟩ := exists_cons_of_operandAt? h
  obtain rfl := Nat.lt_one_iff.mp hi
  cases rest with
  | nil => exact List.mem_singleton_self _
  | cons j rest => cases h

/-- The extractions of operands and those of the operands behind them. -/
theorem ListsOnce.append {os os' : List Operand} {es es' : List Extraction} (h : ListsOnce os es)
    (h' : ListsOnce os' es') : ListsOnce (os ++ os') (es ++ es') := by
  obtain ⟨paths, hnodup, hlists, hall⟩ := h
  obtain ⟨paths', hnodup', hlists', hall'⟩ := h'
  -- The first paths start within the first operands, and the others behind them.
  have hfirst : ∀ path ∈ paths, ∃ i rest, path = i :: rest ∧ i < os.length := by
    intro path hpath
    obtain ⟨e, _, he⟩ := exists_of_mem_right hlists.flip hpath
    exact exists_cons_of_operandAt? he
  refine ⟨paths ++ paths'.map (pathBehind os.length), ?_, ?_, fun path e he => ?_⟩
  · refine hnodup.append (hnodup'.map (pathBehind_injective _)) fun path hpath hbehind => ?_
    obtain ⟨i, rest, rfl, hi⟩ := hfirst path hpath
    obtain ⟨_ | ⟨j, path'⟩, _, hj⟩ := List.mem_map.mp hbehind
    · cases hj
    · exact absurd hi (Nat.not_lt.mpr ((List.cons.inj hj).1 ▸ Nat.le_add_right _ _))
  · refine List.rel_append (hlists.imp fun path e he => ?_)
      (List.forall₂_map_left_iff.mpr (hlists'.imp fun path e he => ?_))
    · obtain ⟨i, rest, rfl, hi⟩ := exists_cons_of_operandAt? he
      rwa [operandAt?_append_left hi]
    · rwa [operandAt?_append_right]
  · obtain ⟨i, rest, rfl, hi⟩ := exists_cons_of_operandAt? he
    rw [List.mem_append]
    rcases Nat.lt_or_ge i os.length with hlt | hge
    · rw [operandAt?_append_left hlt] at he
      exact .inl (hall _ e he)
    · obtain ⟨j, rfl⟩ := Nat.exists_eq_add_of_le hge
      refine .inr (List.mem_map.mpr ⟨j :: rest, hall' _ e ?_, rfl⟩)
      rwa [← operandAt?_append_right os]

/-- An operand that is not an extraction has those right below it. -/
theorem listsOnce_of_children {o : Operand} {es : List Extraction} (ho : ∀ e, o ≠ .extract e)
    (h : ListsOnce o.children es) : ListsOnce [o] es := by
  obtain ⟨paths, hnodup, hlists, hall⟩ := h
  refine ⟨paths.map (0 :: ·), hnodup.map (List.cons_injective), ?_, fun path e he => ?_⟩
  · refine List.forall₂_map_left_iff.mpr (hlists.imp fun path e he => ?_)
    obtain ⟨i, rest, rfl, _⟩ := exists_cons_of_operandAt? he
    exact he
  · obtain ⟨i, rest, rfl, hi⟩ := exists_cons_of_operandAt? he
    obtain rfl := Nat.lt_one_iff.mp hi
    cases rest with
    | nil => exact absurd (Option.some.inj he) (ho e)
    | cons j rest => exact List.mem_map_of_mem (hall _ e he)

mutual

/-- The extractions of an operand are listed once each. -/
theorem Operand.listsOnce : (o : Operand) → ListsOnce [o] o.extractions
  | .literal _ | .column _ | .field _ | .property _ => listsOnce_of_children nofun listsOnce_nil
  | .extract e => listsOnce_extract e
  | .simpleCase subject arms => listsOnce_of_children nofun (subject.listsOnce.append arms.listsOnce)
  | .searchedCase arms => listsOnce_of_children nofun arms.listsOnce
  | .binary _ left right => listsOnce_of_children nofun (left.listsOnce.append right.listsOnce)
  | .not operand => listsOnce_of_children nofun operand.listsOnce

theorem Arms.listsOnce : (arms : Arms) → ListsOnce arms.operands arms.extractions
  | .done => listsOnce_nil
  | .otherwise result => result.listsOnce
  | .arm condition result rest =>
    (condition.listsOnce.append result.listsOnce).append rest.listsOnce

end

theorem listsOnce_flatMap (os : List Operand) : ListsOnce os (os.flatMap Operand.extractions) := by
  induction os with
  | nil => exact listsOnce_nil
  | cons o os ih => exact o.listsOnce.append ih

/-- The extractions of a select are those of its projections and of its filter, each of them once. -/
theorem SelectStep.listsOnce (q : SelectStep) : ListsOnce q.operands q.extractions := by
  have hfilter : (q.filter.map Operand.extractions).getD [] =
      q.filter.toList.flatMap Operand.extractions := by
    cases q.filter with
    | none => rfl
    | some condition => exact (List.append_nil _).symm
  rw [SelectStep.extractions, hfilter, ← List.flatMap_append]
  exact listsOnce_flatMap _

/-! ## 2. Counts of plans -/

def SourceStep.isDownload : SourceStep → Bool
  | .download .. | .downloadEach .. => true
  | .single | .buffer _ => false

def Step.isCreateBuffer : Step → Bool
  | .createBuffer .. => true
  | .insert .. | .select _ => false

def Step.isInsert : Step → Bool
  | .insert .. => true
  | .createBuffer .. | .select _ => false

def Step.isSelect : Step → Bool
  | .select _ => true
  | .createBuffer .. | .insert .. => false

/-- How many selects download. -/
def countDownloads (qs : List SelectStep) : Nat := qs.countP fun q => q.source.isDownload

/-- How many extractions the selects have. -/
def countExtractions (qs : List SelectStep) : Nat := (qs.map fun q => q.extractions.length).sum

/-- What a plan holds: steps by kind, and downloads and extractions of the selects at every depth. -/
def Plan.summary (plan : Plan) : Summary where
  buffers := plan.countP Step.isCreateBuffer
  inserts := plan.countP Step.isInsert
  selects := plan.countP Step.isSelect
  downloads := countDownloads (plan.flatMap Step.selects)
  picks := countExtractions (plan.flatMap Step.selects)

theorem countDownloads_append (qs qs' : List SelectStep) :
    countDownloads (qs ++ qs') = countDownloads qs + countDownloads qs' := List.countP_append

theorem countExtractions_append (qs qs' : List SelectStep) :
    countExtractions (qs ++ qs') = countExtractions qs + countExtractions qs' := by
  rw [countExtractions, List.map_append, List.sum_append]
  rfl

theorem countDownloads_cons (q : SelectStep) (qs : List SelectStep) :
    countDownloads (q :: qs) = countDownloads qs + q.source.isDownload.toNat := by
  rw [countDownloads, List.countP_cons]
  cases q.source.isDownload <;> rfl

theorem countExtractions_cons (q : SelectStep) (qs : List SelectStep) :
    countExtractions (q :: qs) = q.extractions.length + countExtractions qs := List.sum_cons

/-- What two scripts hold together. -/
def Script.Summary.plus (s t : Summary) : Summary where
  buffers := s.buffers + t.buffers
  inserts := s.inserts + t.inserts
  selects := s.selects + t.selects
  downloads := s.downloads + t.downloads
  picks := s.picks + t.picks

theorem Script.Summary.zero_plus (s : Summary) : Summary.zero.plus s = s := by
  simp only [plus, zero, Nat.zero_add]

theorem Script.Summary.plus_assoc (s t u : Summary) : (s.plus t).plus u = s.plus (t.plus u) := by
  simp only [plus, Nat.add_assoc]

theorem Plan.summary_cons (step : Step) (plan : Plan) :
    Plan.summary (step :: plan) = (Plan.summary [step]).plus plan.summary := by
  have hsteps (p : Step → Bool) : ([step] ++ plan).countP p = [step].countP p + plan.countP p :=
    List.countP_append
  rw [List.singleton_append] at hsteps
  simp only [summary, Summary.plus, hsteps, List.flatMap_cons, List.flatMap_nil, List.append_nil,
    countDownloads_append, countExtractions_append]

/-! ## 3. From scripts to plans -/

variable {scope : Scope} {catalog : Catalog}

-- A name stands for no extraction.
theorem extractions_of_ofName {name : String} {position : Position} {o : Operand}
    (h : Operand.ofName scope name position = .ok o) : o.extractions = [] := by
  cases scope with
  | empty => cases h
  | buffer schema =>
    simp only [Operand.ofName] at h
    split at h
    · cases h
      rfl
    · cases h
  | page | image =>
    simp only [Operand.ofName] at h
    split at h
    · cases h
      rfl
    · cases h
  | json =>
    cases h
    rfl

mutual

/-- A pick becomes an extraction, and nothing else does. -/
theorem length_extractions_of_ofExpr : (e : Expr) → ∀ {o}, Operand.ofExpr scope e = .ok o →
    o.extractions.length = e.picks.length
  | .literal _, _, h => by cases h; rfl
  | .column _ _, _, h => by
    rw [extractions_of_ofName h]
    rfl
  | .pick _ _, _, h => by cases h; rfl
  | .simpleCase subject branches _, _, h => by
    obtain ⟨subject', hsubject, h⟩ := Except.bind_eq_ok.mp h
    obtain ⟨arms, harms, h⟩ := Except.bind_eq_ok.mp h
    cases h
    rw [Operand.extractions, Expr.picks, List.length_append, List.length_append,
      length_extractions_of_ofExpr subject hsubject, length_extractions_of_ofBranches branches harms]
  | .searchedCase branches _, _, h => by
    obtain ⟨arms, harms, rfl⟩ := Except.map_eq_ok.mp h
    exact length_extractions_of_ofBranches branches harms
  | .binary _ left right _, _, h => by
    obtain ⟨left', hleft, h⟩ := Except.bind_eq_ok.mp h
    obtain ⟨right', hright, h⟩ := Except.bind_eq_ok.mp h
    cases h
    rw [Operand.extractions, Expr.picks, List.length_append, List.length_append,
      length_extractions_of_ofExpr left hleft, length_extractions_of_ofExpr right hright]
  | .not operand, _, h => by
    obtain ⟨operand', hoperand, rfl⟩ := Except.map_eq_ok.mp h
    rw [Operand.extractions, Expr.picks, length_extractions_of_ofExpr operand hoperand]

theorem length_extractions_of_ofBranches : (b : Branches) → ∀ {arms},
    Arms.ofBranches scope b = .ok arms → arms.extractions.length = b.picks.length
  | .done, _, h => by cases h; rfl
  | .otherwise result, _, h => by
    obtain ⟨result', hresult, rfl⟩ := Except.map_eq_ok.mp h
    exact length_extractions_of_ofExpr result hresult
  | .branch condition result rest, _, h => by
    obtain ⟨condition', hcondition, h⟩ := Except.bind_eq_ok.mp h
    obtain ⟨result', hresult, h⟩ := Except.bind_eq_ok.mp h
    obtain ⟨rest', hrest, h⟩ := Except.bind_eq_ok.mp h
    cases h
    simp only [Arms.extractions, Branches.picks, List.length_append,
      length_extractions_of_ofExpr condition hcondition, length_extractions_of_ofExpr result hresult,
      length_extractions_of_ofBranches rest hrest]

end

theorem length_extractions_of_projectionOperands {p : Projection} {os : List Operand}
    (h : projectionOperands scope p = .ok os) :
    (os.flatMap Operand.extractions).length = p.picks.length := by
  cases p with
  | star position =>
    -- A star stands for columns and fields.
    have hnone : os.flatMap Operand.extractions = [] := by
      refine List.flatMap_eq_nil_iff.mpr fun o ho => ?_
      cases scope <;> cases h <;> obtain ⟨_, _, rfl⟩ := List.mem_map.mp ho <;> rfl
    rw [hnone]
    rfl
  | item e label =>
    obtain ⟨o, ho, h⟩ := Except.bind_eq_ok.mp h
    cases h
    rw [List.flatMap_singleton, length_extractions_of_ofExpr e ho]
    rfl

theorem length_extractions_of_projections {projections : List Projection} {os : List (List Operand)}
    (h : projections.mapM (projectionOperands scope) = .ok os) :
    (os.flatten.flatMap Operand.extractions).length = (projections.flatMap Projection.picks).length := by
  induction Except.mapM_eq_ok.mp h with
  | nil => rfl
  | cons hp hps ih =>
    rw [List.flatten_cons, List.flatMap_append, List.flatMap_cons, List.length_append, List.length_append,
      length_extractions_of_projectionOperands hp, ih (Except.mapM_eq_ok.mpr hps)]

theorem length_extractions_of_filter {filter : Option Expr} {condition : Option Operand}
    (h : filter.mapM (Operand.ofExpr scope) = .ok condition) :
    ((condition.map Operand.extractions).getD []).length = ((filter.map Expr.picks).getD []).length := by
  cases filter with
  | none =>
    cases h
    rfl
  | some e =>
    obtain ⟨o, ho, h⟩ := Except.bind_eq_ok.mp h
    cases h
    exact length_extractions_of_ofExpr e ho

mutual

/-- A select counts what its step holds. -/
theorem SelectStep.counts_of_ofSelect : (q : Select Settled) → ∀ {step},
    SelectStep.ofSelect catalog q = .ok step →
      q.counts = (countDownloads step.selects, countExtractions step.selects)
  | ⟨projections, source, filter, _, _, note⟩, _, h => by
    obtain ⟨scope, _, h⟩ := Except.bind_eq_ok.mp h
    obtain ⟨os, hos, h⟩ := Except.bind_eq_ok.mp h
    obtain ⟨condition, hcondition, h⟩ := Except.bind_eq_ok.mp h
    obtain ⟨source', hsource, h⟩ := Except.bind_eq_ok.mp h
    cases h
    rw [Select.counts, SourceStep.counts_of_ofSource source hsource, SelectStep.selects,
      countDownloads_cons, countExtractions_cons, SelectStep.extractions, List.length_append,
      length_extractions_of_projections hos, length_extractions_of_filter hcondition]

theorem SourceStep.counts_of_ofSource : (source : Source Settled) → ∀ {options step},
    SourceStep.ofSource catalog options source = .ok step →
      source.counts =
        (countDownloads step.selects + step.isDownload.toNat, countExtractions step.selects)
  | .nothing, _, _, h => by cases h; rfl
  | .buffer _ _, _, _, h => by cases h; rfl
  | .download .., _, _, h => by cases h; rfl
  | .downloadEach kind urls _ _, options, _, h => by
    obtain ⟨query, hquery, h⟩ := Except.bind_eq_ok.mp h
    cases h
    rw [Source.counts, SelectStep.counts_of_ofSelect urls hquery]
    rfl

end

theorem Plan.summary_select (q : SelectStep) :
    Plan.summary [.select q] = ⟨0, 0, 1, countDownloads q.selects, countExtractions q.selects⟩ := by
  simp only [summary, List.flatMap_cons, List.flatMap_nil, List.append_nil, Step.selects]
  rfl

theorem Plan.summary_insert (buffer : String) (targets : List Nat) (q : SelectStep) :
    Plan.summary [.insert buffer targets q] =
      ⟨0, 1, 0, countDownloads q.selects, countExtractions q.selects⟩ := by
  simp only [summary, List.flatMap_cons, List.flatMap_nil, List.append_nil, Step.selects]
  rfl

/-- A statement adds what its step holds. -/
theorem addStatement_of_ofStatement {st : Statement Settled} {step : Step} {after : Catalog}
    (h : Step.ofStatement catalog st = .ok (step, after)) (s : Summary) :
    s.addStatement st = s.plus (Plan.summary [step]) := by
  cases st with
  | createBuffer name columns position =>
    obtain ⟨schema, _, h⟩ := Except.bind_eq_ok.mp h
    cases h
    rfl
  | insert target columns query position =>
    simp only [Step.ofStatement] at h
    split at h
    · obtain ⟨targets, _, h⟩ := Except.bind_eq_ok.mp h
      obtain ⟨q, hq, h⟩ := Except.bind_eq_ok.mp h
      cases h
      rw [Plan.summary_insert, Summary.addStatement, Summary.addSelect,
        SelectStep.counts_of_ofSelect query hq]
      rfl
    · cases h
  | select query =>
    obtain ⟨q, hq, h⟩ := Except.bind_eq_ok.mp h
    cases h
    rw [Plan.summary_select, Summary.addStatement, Summary.addSelect, SelectStep.counts_of_ofSelect query hq]
    rfl

/-- Statements add what their plan holds. -/
theorem foldl_addStatement_of_generateFrom {program : Program Settled} {plan : Plan}
    (h : generateFrom catalog program = .ok plan) (s : Summary) :
    program.foldl Summary.addStatement s = s.plus plan.summary := by
  induction program generalizing catalog plan s with
  | nil =>
    cases h
    rfl
  | cons st program ih =>
    obtain ⟨⟨step, after⟩, hstep, h⟩ := Except.bind_eq_ok.mp h
    obtain ⟨rest, hrest, h⟩ := Except.bind_eq_ok.mp h
    cases h
    rw [List.foldl_cons, ih hrest, addStatement_of_ofStatement hstep, Summary.plus_assoc,
      ← Plan.summary_cons]

/-! ## 4. Checks -/

/-- What a check of a script says of its plan. -/
structure Plan.Tallies (plan : Plan) (source : String) : Prop where
  /-- The script is settled, and the counts of it are those of the plan. -/
  summary : ∃ program, check source = .ok program ∧ Summary.ofProgram program = plan.summary
  /-- They are what the check answers. -/
  response : Command.respondCheck (.ok source) = ⟨0, Command.summaryText plan.summary, ""⟩
  /-- Each place of an extraction is counted once. -/
  once : ∀ step ∈ plan, ∀ q ∈ step.selects, ListsOnce q.operands q.extractions

/-- A check counts what the plan does. -/
theorem tallies_of_compile {source : String} {plan : Plan} (h : compile source = .ok plan) :
    plan.Tallies source := by
  obtain ⟨program, hcheck, h⟩ := Except.bind_eq_ok.mp h
  have hplan : generateFrom [] program = .ok plan := Except.mapError_eq_ok.mp h
  have hsummary : Summary.ofProgram program = plan.summary := by
    rw [Summary.ofProgram, foldl_addStatement_of_generateFrom hplan, Summary.zero_plus]
  refine ⟨⟨program, hcheck, hsummary⟩, ?_, fun step _ q _ => q.listsOnce⟩
  rw [← hsummary, Command.respondCheck, hcheck]

/-- Selects in selects, with picks in cases, below operators and beside a selector of nodes. -/
theorem tallies_of_compile_nested :
    let source := "create buffer b (u text) insert into b select pick 'a' from download page 'x' " ++
      "select case pick 'h' when url then pick 'p' end from download page (select u from b) " ++
      "where nodes = 'r' and not pick 'b' = 'y'"
    (compile source).map Plan.summary = .ok ⟨1, 1, 1, 2, 4⟩ ∧
      ∃ plan : Plan, plan.Tallies source ∧ plan.summary = ⟨1, 1, 1, 2, 4⟩ := by
  intro source
  have hcompile : (compile source).map Plan.summary = .ok ⟨1, 1, 1, 2, 4⟩ := by decide +kernel
  obtain ⟨plan, hplan, hsummary⟩ := Except.map_eq_ok.mp hcompile
  exact ⟨hcompile, plan, tallies_of_compile hplan, hsummary⟩

end Quarry
