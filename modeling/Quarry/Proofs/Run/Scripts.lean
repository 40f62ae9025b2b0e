import Quarry.Proofs.Run.Playing
import Quarry.Proofs.Run.Refinement

/-!
# Runs of scripts

The plan of a script fits the buffers that it declares, so that its runs are as the sequential reading
says. At every step that a run reaches, the buffers are those of the steps before it. Rows are those of what
is answered for the wires, in the order of the wires.
-/

namespace Quarry

open Script (DownloadKind)

/-! ## 1. Steps that are reached -/

/-- A run has performed steps, and this is its journal. -/
def Plan.Reaches (s : Setting) (done : Plan) (j : Journal) : Prop :=
  (done.forM (Step.run s) : Run Unit).on .start = (.ok (), j)

-- In a plan that fits no row is of the wrong width.
theorem Plan.FitsAfter.even {catalog : Catalog} {plan : Plan} (h : Plan.FitsAfter catalog plan) :
    ∀ step ∈ plan, step.Even := by
  intro step hstep q hq
  obtain ⟨before, behind, rfl⟩ := List.append_of_mem hstep
  exact ((h before step behind rfl).1 q hq).length_eq

theorem fitsAfter_of_compile {source : String} {plan : Plan} (h : compile source = .ok plan) :
    Plan.FitsAfter [] plan := fits_of_compile h

-- What a run did is what the sequential reading does.
theorem Plan.Reaches.perform {s : Setting} {done : Plan} {j : Journal} (h : Plan.Reaches s done j)
    (heven : ∀ step ∈ done, step.Even) : done.perform s.world .start = (j.ledger, none) := by
  obtain ⟨r, j', hrun, hmatch⟩ := Plan.run_perform s heven .start
  unfold Plan.Reaches at h
  rw [h] at hrun
  cases hrun
  exact hmatch

-- What the sequential reading does is what a run does.
theorem Plan.exists_reaches {s : Setting} {done : Plan} {l : Ledger}
    (h : done.perform s.world .start = (l, none)) (heven : ∀ step ∈ done, step.Even) :
    ∃ j, Plan.Reaches s done j ∧ j.ledger = l := by
  obtain ⟨r, j, hrun, hmatch⟩ := Plan.run_perform s heven .start
  have hstart : done.perform s.world Journal.start.ledger = (l, none) := h
  rw [hstart] at hmatch
  cases r with
  | ok u => exact ⟨j, hrun, (congrArg Prod.fst (show (l, none) = (j.ledger, none) from hmatch)).symm⟩
  | error e =>
    obtain ⟨l', hl', _⟩ := hmatch
    cases hl'

section Compiled

variable {source : String} {plan before after : Plan} {step : Step} {s : Setting} {j : Journal}

/-- The buffers of a run are those of the steps that it has performed. -/
theorem matches_of_reaches (h : compile source = .ok plan) (hplan : plan = before ++ after)
    (hreach : Plan.Reaches s before j) : j.store.Matches (Plan.catalog before) := by
  subst hplan
  have hfits := (fitsAfter_of_compile h).before
  exact hfits.matches_of_perform Store.Matches.empty (hreach.perform hfits.even)

/-- The error that ends a run is one of those that a step that fits can have. -/
theorem fails_of_error (h : compile source = .ok plan) {e : RunError}
    (he : (Plan.run s plan).error = some e) :
    ∃ before step after j, plan = before ++ step :: after ∧ Plan.Reaches s before j ∧
      step.Fits (Plan.catalog before) ∧
      Step.Fails s.world j.ledger (Plan.catalog before) step e := by
  have hfits := fitsAfter_of_compile h
  rw [(Plan.run_eq_perform s hfits.even).2] at he
  have hperform : plan.perform s.world .start = ((plan.perform s.world .start).1, some e) :=
    Prod.ext rfl he
  -- The reading finds the step with the error, and a run reaches it as well.
  obtain ⟨before, step, behind, rfl, hbefore, hstep⟩ := Plan.exists_step_of_error hperform
  obtain ⟨j, hreach, hledger⟩ := Plan.exists_reaches hbefore hfits.before.even
  have hmatches := matches_of_reaches h rfl hreach
  have hstepFits := hfits before step behind rfl
  rw [List.nil_append] at hstepFits
  rw [← hledger] at hstep
  refine ⟨before, step, behind, j, rfl, hreach, hstepFits, ?_⟩
  -- What a step that fits does there, it does with the ledger of the run.
  rcases hstepFits.perform (w := s.world) (l := j.ledger) hmatches with ⟨_, hok, _⟩ | ⟨e', herror, hfails⟩
  · rw [hok] at hstep
    cases hstep
  · rw [herror] at hstep
    cases hstep
    exact hfails

end Compiled

/-! ## 2. Runs and the sequential reading -/

end Quarry
