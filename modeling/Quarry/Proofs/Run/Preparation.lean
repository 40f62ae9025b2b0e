import Quarry.Proofs.Run.Scripts
import Quarry.Proofs.Run.Watching

/-!
# Selectors and patterns come first

A selector or pattern that cannot be read ends a step before it fetches anything, however deep it stands.
This is the only way in which such an error comes up.
-/

namespace Quarry

/-! ## 1. Rows -/

section Prepared

variable {q : SelectStep} {x : Extractor}

-- A prepared extractor lacks nothing that an operand of its select mentions.
theorem not_lacks_of_prepare (hx : Extractor.prepare q = .ok x) {o : Operand} (ho : o ∈ q.operands)
    (f : Formula) : ¬x.Lacks o.parts f := fun h =>
  h.2 ((Extractor.prepare_eq_ok hx).2 f (Or.inr ⟨o, ho, h.1⟩))

/-- With a prepared extractor no row compiles a pattern, or ends the run for a formula. -/
theorem evalNoted_of_prepare (hx : Extractor.prepare q = .ok x) {o : Operand} (ho : o ∈ q.operands)
    (row : Candidate) :
    (∀ notes, (o.evalNoted x row).run.run notes = (o.eval x row, notes)) ∧
      ∀ f, o.eval x row ≠ .error (Formula.error f) := by
  have hreads : Watched.Reads (x.Lacks o.parts) (o.evalNoted x row) (o.eval x row) :=
    evalNoted_reads o
  refine ⟨fun notes => ?_, fun f hf => not_lacks_of_prepare hx ho f (hreads.error f hf)⟩
  obtain ⟨new, hnew, hrun⟩ := hreads.notes notes
  -- Nothing is left that could be noted.
  have hempty : new = [] :=
    List.eq_nil_iff_forall_not_mem.mpr fun source hs => not_lacks_of_prepare hx ho _ (hnew source hs)
  rw [hrun, hempty, List.append_nil]

/-- With a prepared extractor every page has its places. -/
theorem contexts_of_prepare (hx : Extractor.prepare q = .ok x) (root : Page.Spot) :
    ∃ places, x.contexts (Extractor.nodesOf q.source) root = .ok places := by
  unfold Extractor.contexts
  cases hnodes : Extractor.nodesOf q.source with
  | none => exact ⟨[root], rfl⟩
  | some nodes =>
    cases hselector : x.selector nodes with
    | ok selector =>
      refine ⟨selector.selectAll root, ?_⟩
      simp only [hselector]
      rfl
    | error e =>
      obtain ⟨_, _, hheld⟩ := Extractor.selector_eq_error hselector
      exact absurd ((Extractor.prepare_eq_ok hx).2 _ (Or.inl ⟨nodes, hnodes, rfl⟩)) hheld

-- The candidates of a wire fail only for its answer.
theorem wireCandidates_ne_formula (hx : Extractor.prepare q = .ok x) {w : World}
    {kind : Script.DownloadKind} {options : FetchOptions} {first index : Nat} {url : String}
    (hnodes : Extractor.nodesOf q.source = options.nodes) (f : Formula) :
    w.wireCandidates x kind options first index url ≠ .error (Formula.error f) := by
  intro h
  rcases wireCandidates_eq_error h with ⟨nodes, hsome, h⟩ | ⟨fault, h⟩
  · obtain ⟨_, _, hheld⟩ := Extractor.selector_eq_error h
    exact hheld ((Extractor.prepare_eq_ok hx).2 _ (Or.inl ⟨nodes, hnodes.trans hsome, rfl⟩))
  · cases f <;> cases h

end Prepared

/-! ## 2. Selects -/

/-- A formula of a select or of a url query within it. -/
def SelectStep.MentionsDeep (q : SelectStep) (f : Formula) : Prop :=
  ∃ p ∈ q.selects, p.Mentions f

theorem SelectStep.MentionsDeep.of_query {columns : List Column} {projections : List Operand}
    {kind : Script.DownloadKind} {query : SelectStep} {options : FetchOptions}
    {filter : Option Operand} {f : Formula} (h : query.MentionsDeep f) :
    SelectStep.MentionsDeep ⟨columns, projections, .downloadEach kind query options, filter⟩ f := by
  obtain ⟨p, hp, hf⟩ := h
  refine ⟨p, ?_, hf⟩
  rw [SelectStep.selects]
  exact List.mem_cons_of_mem _ hp

/-- A select with a formula that cannot be read ends for such a formula, and the run did nothing. -/
theorem SelectStep.run_refuses (s : Setting) (j : Journal) : (q : SelectStep) →
    (∃ f, q.MentionsDeep f ∧ ¬f.IsValid) →
      ∃ f, q.MentionsDeep f ∧ ¬f.IsValid ∧ (q.run s).on j = (.error f.error, j)
  | ⟨columns, projections, source, filter⟩, h => by
    -- By induction on selects: preparing comes before the url query, and that before the wires.
    unfold SelectStep.run
    cases hx : Extractor.prepare ⟨columns, projections, source, filter⟩ with
    | error e =>
      obtain ⟨f, hf, hinvalid, rfl⟩ := Extractor.prepare_eq_error hx
      exact ⟨f, ⟨_, SelectStep.self_mem_selects _, hf⟩, hinvalid, rfl⟩
    | ok x =>
      -- What cannot be read stands in the url query, as the select itself was prepared.
      obtain ⟨hsound, hholds⟩ := Extractor.prepare_eq_ok hx
      obtain ⟨f, ⟨p, hp, hf⟩, hinvalid⟩ := h
      rw [SelectStep.selects] at hp
      rcases List.mem_cons.mp hp with rfl | hp
      · exact absurd (hsound f (hholds f hf)) hinvalid
      · cases source with
        | single | buffer _ | download _ _ _ => cases hp
        | downloadEach kind query options =>
          obtain ⟨f, hf, hinvalid, hrun⟩ := SelectStep.run_refuses s j query ⟨f, ⟨p, hp, hf⟩, hinvalid⟩
          refine ⟨f, .of_query hf, hinvalid, ?_⟩
          have hsource := on_bind_error (f := fun t : Table =>
            s.download kind options t.urls x (SelectStep.absorb x filter projections)
              (.empty columns)) hrun
          exact (on_bind_ok (on_liftExcept (.ok x))).trans hsource

/-- If a select ends for a formula, it is one of the select that cannot be read. -/
theorem SelectStep.mentionsDeep_of_rows {w : World} {store : Store} {wires : Nat} {f : Formula} :
    (q : SelectStep) → q.rows w store wires = .error f.error → q.MentionsDeep f ∧ ¬f.IsValid
  | ⟨columns, projections, source, filter⟩, h => by
    rcases SelectStep.exists_of_rows_error h with h | ⟨x, hx, h | ⟨groups, wires', hgroups, h⟩⟩
    · obtain ⟨g, hg, hinvalid, he⟩ := Extractor.prepare_eq_error h
      cases Formula.error_inj he
      exact ⟨⟨_, SelectStep.self_mem_selects _, hg⟩, hinvalid⟩
    · cases source with
      | single | download _ _ _ => cases h
      | buffer name =>
        obtain ⟨_, he⟩ := groups_buffer_eq_error h
        cases f <;> cases he
      | downloadEach kind query options =>
        unfold SourceStep.groups at h
        rcases Except.bind_eq_error.mp h with h | ⟨_, _, h⟩
        · obtain ⟨hf, hinvalid⟩ := SelectStep.mentionsDeep_of_rows query h
          exact ⟨.of_query hf, hinvalid⟩
        · cases h
    · -- The select was prepared, so that neither its wires nor its rows fail for a formula.
      rcases exists_of_rowsOf_eq_error h with he | ⟨_, c, _, _, o, ho, he⟩
      · have hdownload : ∀ kind options first urls,
            Extractor.nodesOf source = options.nodes →
              (.error f.error : Except RunError (List Candidate)) ∉
                w.downloadGroups x kind options first urls := by
          intro kind options first urls hnodes hmem
          obtain ⟨i, hi, hcandidates⟩ := List.mem_mapIdx.mp hmem
          exact wireCandidates_ne_formula hx hnodes f hcandidates
        cases source with
        | single =>
          cases hgroups
          cases List.mem_singleton.mp he
        | buffer name =>
          obtain ⟨_, _, rfl, _⟩ := groups_buffer_eq_ok hgroups
          cases List.mem_singleton.mp he
        | download kind url options =>
          cases hgroups
          exact absurd he (hdownload _ _ _ _ rfl)
        | downloadEach kind query options =>
          obtain ⟨_, _, hgroups⟩ := Except.bind_eq_ok.mp hgroups
          cases hgroups
          exact absurd he (hdownload _ _ _ _ rfl)
      · exact absurd he ((evalNoted_of_prepare hx ho c).2 f)

/-! ## 3. Steps -/

/-- A step reads its selectors and patterns before anything else. -/
structure Step.ReadsFirst (step : Step) (s : Setting) : Prop where
  /-- A formula that cannot be read, at whatever depth, ends the step for such a formula. The journal is
  as it was, so that no wire was fetched. -/
  refuses : (∃ f, step.Mentions f ∧ ¬f.IsValid) → ∀ j,
    ∃ f, step.Mentions f ∧ ¬f.IsValid ∧ (step.run s).on j = (.error f.error, j)
  /-- The step ends for a formula only if it cannot be read, and then nothing was fetched. -/
  only : ∀ j j' f, (step.run s).on j = (.error (Formula.error f), j') →
    step.Mentions f ∧ ¬f.IsValid ∧ j' = j
  /-- Once a select was prepared, no row of it ends the run for a formula, and none compiles a
  pattern: the notes stay as they are. -/
  rows : ∀ q ∈ step.selects, ∀ x, Extractor.prepare q = .ok x → ∀ row, ∀ o ∈ q.operands,
    (∀ notes, (o.evalNoted x row).run.run notes = (o.eval x row, notes)) ∧
      ∀ f, o.eval x row ≠ .error (Formula.error f)
  /-- Every page that it takes has its places. -/
  places : ∀ q ∈ step.selects, ∀ x, Extractor.prepare q = .ok x →
    ∀ root, ∃ places, x.contexts (Extractor.nodesOf q.source) root = .ok places

theorem Step.run_refuses (s : Setting) (j : Journal) {step : Step}
    (h : ∃ f, step.Mentions f ∧ ¬f.IsValid) :
    ∃ f, step.Mentions f ∧ ¬f.IsValid ∧ (step.run s).on j = (.error f.error, j) := by
  cases step with
  | createBuffer name schema =>
    obtain ⟨f, ⟨q, hq, _⟩, _⟩ := h
    cases hq
  | insert buffer targets query | select query =>
    obtain ⟨f, hf, hinvalid, hrun⟩ := SelectStep.run_refuses s j query h
    exact ⟨f, hf, hinvalid, on_bind_error hrun⟩

-- The reading of a step ends for a formula only where its select does.
theorem Step.mentions_of_perform {w : World} {l : Ledger} {step : Step} {f : Formula}
    (h : step.perform w l = .error f.error) : step.Mentions f ∧ ¬f.IsValid := by
  cases step with
  | createBuffer name schema =>
    rw [Step.perform_createBuffer] at h
    rcases Except.bind_eq_error.mp h with h | ⟨_, _, h⟩
    · obtain ⟨_, _, h⟩ := Except.mapError_eq_error.mp h
      cases f <;> cases h
    · cases h
  | insert buffer targets query =>
    rw [Step.perform_insert] at h
    rcases Except.bind_eq_error.mp h with h | ⟨_, _, h⟩
    · exact SelectStep.mentionsDeep_of_rows query h
    · rcases Except.bind_eq_error.mp h with h | ⟨_, _, h⟩
      · obtain ⟨_, _, h⟩ := Except.mapError_eq_error.mp h
        cases f <;> cases h
      · cases h
  | select query =>
    rw [Step.perform_select] at h
    rcases Except.bind_eq_error.mp h with h | ⟨_, _, h⟩
    · exact SelectStep.mentionsDeep_of_rows query h
    · cases h

/-- The steps of a script read their selectors and patterns first, from any journal. If a run reaches a
step with one that cannot be read, it ends there without fetching anything more. -/
theorem readsFirst_of_compile {source : String} {plan : Plan} (h : compile source = .ok plan)
    (s : Setting) :
    (∀ step ∈ plan, step.ReadsFirst s) ∧
      ∀ before step after j, plan = before ++ step :: after → Plan.Reaches s before j →
        (∃ f, step.Mentions f ∧ ¬f.IsValid) →
          ∃ f, step.Mentions f ∧ ¬f.IsValid ∧
            Plan.run s plan = ⟨j.tables, j.fetched, some f.error⟩ := by
  have heven := (fitsAfter_of_compile h).even
  refine ⟨fun step hstep => ⟨fun hf j => Step.run_refuses s j hf, ?_, ?_, ?_⟩, ?_⟩
  · intro j j' f hrun
    obtain ⟨r, j'', hon, hperform, _⟩ := Step.run_perform s j (heven step hstep)
    rw [hrun] at hon
    cases hon
    obtain ⟨hf, hinvalid⟩ := Step.mentions_of_perform hperform.symm
    -- So the step is one that ends before it does anything.
    obtain ⟨g, _, _, hrefuses⟩ := Step.run_refuses s j ⟨f, hf, hinvalid⟩
    rw [hrun] at hrefuses
    exact ⟨hf, hinvalid, (Prod.mk.inj hrefuses).2⟩
  · intro q _ x hx row o ho
    exact evalNoted_of_prepare hx ho row
  · intro q _ x hx root
    exact contexts_of_prepare hx root
  · rintro before step behind j rfl hreach hf
    obtain ⟨f, hf, hinvalid, hrun⟩ := Step.run_refuses s j hf
    refine ⟨f, hf, hinvalid, ?_⟩
    have hrest : ((step :: behind).forM (Step.run s) : Run Unit).on j = (.error f.error, j) :=
      on_bind_error hrun
    have hall : (List.forM (before ++ step :: behind) (Step.run s) : Run Unit).on .start =
        (.error f.error, j) := by
      show (forM (before ++ step :: behind) (Step.run s) : Run Unit).on .start = _
      rw [List.forM_append]
      exact (on_bind_ok hreach).trans hrest
    unfold Plan.run
    rw [show (List.forM (before ++ step :: behind) (Step.run s) : Run Unit).run.run Journal.start =
      (.error f.error, j) from hall]

/-- A pattern that cannot be read, in the condition of a case that filters a url query. -/
theorem readsFirst_nested_pattern :
    ∃ plan, compile ("select url from download page (select url from download page 'http://a' " ++
        "where case when pick 'a' match '(' = 'x' then true end)") = .ok plan ∧
      ∀ s, ∃ f, ¬f.IsValid ∧ Plan.run s plan = ⟨#[], #[], some (Formula.error f)⟩ := by
  -- The extraction is found by listing those of the selects within the steps.
  have hextraction : ((compile ("select url from download page (select url from download page 'http://a' " ++
      "where case when pick 'a' match '(' = 'x' then true end)")).toOption.any fun plan =>
        plan.head?.any fun step => step.selects.any fun q =>
          q.extractions.contains ⟨"a", .text, some "(", none⟩) = true := by decide +kernel
  cases hcompile : compile ("select url from download page (select url from download page 'http://a' " ++
      "where case when pick 'a' match '(' = 'x' then true end)") with
  | error e =>
    rw [hcompile] at hextraction
    cases hextraction
  | ok plan =>
    refine ⟨plan, rfl, fun s => ?_⟩
    rw [hcompile] at hextraction
    cases plan with
    | nil => cases hextraction
    | cons step rest =>
      obtain ⟨q, hq, he⟩ := List.any_eq_true.mp hextraction
      obtain ⟨o, ho, hpart⟩ := SelectStep.mem_extractions_iff.mp (List.contains_iff_mem.mp he)
      have hmentions : step.Mentions (.pattern "(") :=
        ⟨q, hq, Or.inr ⟨o, ho, _, hpart, List.mem_cons_of_mem _ List.mem_cons_self⟩⟩
      obtain ⟨f, _, hinvalid, hrun⟩ := (readsFirst_of_compile hcompile s).2 [] step rest .start rfl rfl
        ⟨_, hmentions, by decide +kernel⟩
      exact ⟨f, hinvalid, hrun⟩

end Quarry
