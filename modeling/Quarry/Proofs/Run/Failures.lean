import Quarry.Proofs.Run.Formulas
import Quarry.Proofs.Run.Rows

/-!
# Errors of selects

If a select has an error instead of rows, the error comes from an answer, a selector or a pattern, from
an operator, or from a buffer that there is not.
-/

namespace Quarry

open Script (DownloadKind)

/-! ## 1. Errors from outside -/

/-- Whether an error comes from outside of the plan: from an answer, or from a selector or pattern
that cannot be read. -/
def RunError.isOutside : RunError → Bool
  | .download _ | .selector _ | .pattern _ => true
  | .operator _ | .store _ | .width _ => false

theorem isOutside_of_formula (f : Formula) : f.error.isOutside := by
  cases f <;> rfl

theorem isOutside_of_prepare {q : SelectStep} {e : RunError}
    (h : Extractor.prepare q = .error e) : e.isOutside := by
  obtain ⟨f, _, rfl⟩ := Extractor.isFirstInvalid_of_prepare h
  exact isOutside_of_formula f

-- An extraction fails for a formula of it that cannot be read.
theorem extract_eq_error {x : Extractor} {c : Candidate} {extraction : Extraction} {e : RunError}
    (h : c.extract x extraction = .error e) : ∃ f ∈ extraction.formulas, ¬f.IsValid ∧ e = f.error := by
  -- Only a place of a page is extracted from; the other candidates give null.
  cases c with
  | page p place =>
    unfold Candidate.extract Extractor.extract at h
    rcases Except.bind_eq_error.mp h with h | ⟨selector, _, h⟩
    · obtain ⟨he, hinvalid, _⟩ := Extractor.selector_eq_error h
      exact ⟨_, List.mem_cons_self, hinvalid, he⟩
    · split at h
      · cases h
      · rcases Except.bind_eq_error.mp h with h | ⟨_, _, h⟩
        · unfold Extractor.cut at h
          split at h
          · cases h
          next pattern hpattern =>
            rcases Except.bind_eq_error.mp h with h | ⟨_, _, h⟩
            · obtain ⟨he, hinvalid, _⟩ := Extractor.matcher_eq_error h
              refine ⟨.pattern pattern, ?_, hinvalid, he⟩
              rw [Extraction.formulas, hpattern]
              exact List.mem_cons_of_mem _ List.mem_cons_self
            · split at h <;> cases h
        · cases h
  | alone | stored _ | image _ | object _ | failed _ => cases h

theorem isOutside_of_wireCandidates {w : World} {x : Extractor} {kind : DownloadKind}
    {options : FetchOptions} {first index : Nat} {url : String} {e : RunError}
    (h : w.wireCandidates x kind options first index url = .error e) : e.isOutside := by
  rcases wireCandidates_eq_error h with ⟨nodes, _, h⟩ | ⟨fault, rfl⟩
  · obtain ⟨rfl, _, _⟩ := Extractor.selector_eq_error h
    exact isOutside_of_formula _
  · rfl

/-! ## 2. Errors of operands -/

/-- An operator among operands has no result on the values of its sides. -/
def OperatorFails (x : Extractor) (c : Candidate) (parts : List Operand) (error : OperatorError) :
    Prop :=
  ∃ op left right a b, .binary op left right ∈ parts ∧ op.isLogical = false ∧
    left.eval x c = .ok a ∧ right.eval x c = .ok b ∧ op.apply a b = .error error

theorem OperatorFails.mono {x : Extractor} {c : Candidate} {parts more : List Operand}
    {error : OperatorError} (h : OperatorFails x c parts error) (hsub : parts ⊆ more) :
    OperatorFails x c more error := by
  obtain ⟨op, left, right, a, b, hmem, hrest⟩ := h
  exact ⟨op, left, right, a, b, hsub hmem, hrest⟩

/-- Why operands have no value: an error from outside, or an operator among them. -/
def EvalFails (x : Extractor) (c : Candidate) (parts : List Operand) (e : RunError) : Prop :=
  e.isOutside ∨ ∃ error, e = .operator error ∧ OperatorFails x c parts error

theorem EvalFails.mono {x : Extractor} {c : Candidate} {parts more : List Operand}
    {e : RunError} (h : EvalFails x c parts e) (hsub : parts ⊆ more) : EvalFails x c more e := by
  rcases h with h | ⟨error, he, h⟩
  · exact Or.inl h
  · exact Or.inr ⟨error, he, h.mono hsub⟩

-- An operator that does not join conditions is applied to the values of both sides.
theorem eval_binary {x : Extractor} {c : Candidate} {op : Operator} {left right : Operand}
    (hop : op.isLogical = false) :
    (Operand.binary op left right).eval x c = (do
      let a ← left.eval x c
      let b ← right.eval x c
      (op.apply a b).mapError RunError.operator) := by
  cases op <;> first | rfl | cases hop

theorem isLogical_iff {op : Operator} : op.isLogical = true ↔ op = .and ∨ op = .or := by
  cases op <;> simp [Operator.isLogical]

-- What joins conditions looks at the right side if the left side does not decide.
theorem eval_and {x : Extractor} {c : Candidate} {left right : Operand} :
    (Operand.binary .and left right).eval x c = (do
      let a ← left.eval x c
      if a.isTruthy then (right.eval x c).map fun b => .boolean b.isTruthy
      else .ok (.boolean false)) := by
  rw [Operand.eval]
  cases right.eval x c <;> rfl

theorem eval_or {x : Extractor} {c : Candidate} {left right : Operand} :
    (Operand.binary .or left right).eval x c = (do
      let a ← left.eval x c
      if a.isTruthy then .ok (.boolean true)
      else (right.eval x c).map fun b => .boolean b.isTruthy) := by
  rw [Operand.eval]
  cases right.eval x c <;> rfl

-- So it has a boolean as its value.
theorem boolean_of_logical {x : Extractor} {c : Candidate} {op : Operator} {left right : Operand}
    {v : Value} (hop : op.isLogical = true)
    (h : (Operand.binary op left right).eval x c = .ok v) : ∃ b, v = .boolean b := by
  rcases isLogical_iff.mp hop with rfl | rfl
  · rw [eval_and] at h
    obtain ⟨a, _, h⟩ := Except.bind_eq_ok.mp h
    split at h
    · obtain ⟨b, _, rfl⟩ := Except.map_eq_ok.mp h
      exact ⟨_, rfl⟩
    · cases h
      exact ⟨_, rfl⟩
  · rw [eval_or] at h
    obtain ⟨a, _, h⟩ := Except.bind_eq_ok.mp h
    split at h
    · cases h
      exact ⟨_, rfl⟩
    · obtain ⟨b, _, rfl⟩ := Except.map_eq_ok.mp h
      exact ⟨_, rfl⟩

-- It has no errors of its own.
theorem side_eq_error {x : Extractor} {c : Candidate} {op : Operator} {left right : Operand}
    {e : RunError} (hop : op.isLogical = true)
    (h : (Operand.binary op left right).eval x c = .error e) :
    left.eval x c = .error e ∨ ∃ a, left.eval x c = .ok a ∧ (op = .and → a.isTruthy) ∧
      (op = .or → ¬a.isTruthy) ∧ right.eval x c = .error e := by
  rcases isLogical_iff.mp hop with rfl | rfl
  · rw [eval_and] at h
    refine (Except.bind_eq_error.mp h).imp_right fun ⟨a, ha, h⟩ => ?_
    split at h
    next htruthy => exact ⟨a, ha, fun _ => htruthy, nofun, Except.map_eq_error.mp h⟩
    next => cases h
  · rw [eval_or] at h
    refine (Except.bind_eq_error.mp h).imp_right fun ⟨a, ha, h⟩ => ?_
    split at h
    next => cases h
    next htruthy => exact ⟨a, ha, nofun, fun _ => htruthy, Except.map_eq_error.mp h⟩

mutual

/-- An operand without a value has an error from outside or an operator without a result. -/
theorem eval_eq_error {x : Extractor} {c : Candidate} {e : RunError} : (o : Operand) →
    o.eval x c = .error e → EvalFails x c o.parts e
  -- By induction on operands and branches. An error comes from a part, whose parts are among those of
  -- the whole, or from the operator at the top.
  | .literal _, h => by cases h
  | .column _, h => by cases h
  | .field _, h => by cases h
  | .property _, h => by cases h
  | .extract extraction, h => by
    obtain ⟨f, _, _, rfl⟩ := extract_eq_error h
    exact Or.inl (isOutside_of_formula f)
  | .simpleCase subject arms, h => by
    unfold Operand.eval at h
    rw [Operand.parts]
    rcases Except.bind_eq_error.mp h with h | ⟨v, _, h⟩
    · exact (eval_eq_error subject h).mono fun p hp =>
        List.mem_cons_of_mem _ (List.mem_append_left _ hp)
    · exact (arms_eq_error arms h).mono fun p hp =>
        List.mem_cons_of_mem _ (List.mem_append_right _ hp)
  | .searchedCase arms, h => by
    unfold Operand.eval at h
    rw [Operand.parts]
    exact (arms_eq_error arms h).mono fun p hp => List.mem_cons_of_mem _ hp
  | .binary op left right, h => by
    have hleft : left.parts ⊆ (Operand.binary op left right).parts := by
      rw [Operand.parts]
      exact fun p hp => List.mem_cons_of_mem _ (List.mem_append_left _ hp)
    have hright : right.parts ⊆ (Operand.binary op left right).parts := by
      rw [Operand.parts]
      exact fun p hp => List.mem_cons_of_mem _ (List.mem_append_right _ hp)
    cases hlogical : op.isLogical with
    | false =>
      -- Left side, right side, operator: the first that fails gives the error.
      rw [eval_binary hlogical] at h
      rcases Except.bind_eq_error.mp h with h | ⟨a, ha, h⟩
      · exact (eval_eq_error left h).mono hleft
      · rcases Except.bind_eq_error.mp h with h | ⟨b, hb, h⟩
        · exact (eval_eq_error right h).mono hright
        · obtain ⟨error, herror, rfl⟩ := Except.mapError_eq_error.mp h
          exact Or.inr ⟨error, rfl, op, left, right, a, b, Operand.self_mem_parts _, hlogical, ha, hb,
            herror⟩
    | true =>
      -- Joining conditions does not fail, so that a side has failed.
      rcases side_eq_error hlogical h with h | ⟨_, _, _, _, h⟩
      · exact (eval_eq_error left h).mono hleft
      · exact (eval_eq_error right h).mono hright
  | .not operand, h => by
    unfold Operand.eval at h
    rw [Operand.parts]
    rcases Except.bind_eq_error.mp h with h | ⟨v, _, h⟩
    · exact (eval_eq_error operand h).mono fun p hp => List.mem_cons_of_mem _ hp
    · split at h <;> cases h

-- The branches of a case without a value have such an error.
theorem arms_eq_error {x : Extractor} {c : Candidate} {e : RunError} : (arms : Arms) →
    {subject : Option Value} → arms.eval x c subject = .error e → EvalFails x c arms.parts e
  | .done, _, h => by cases h
  | .otherwise result, _, h => by
    unfold Arms.eval at h
    rw [Arms.parts]
    exact eval_eq_error result h
  | .arm condition result rest, subject, h => by
    unfold Arms.eval at h
    rw [Arms.parts]
    rcases Except.bind_eq_error.mp h with h | ⟨v, _, h⟩
    · exact (eval_eq_error condition h).mono fun p hp =>
        List.mem_append_left _ (List.mem_append_left _ hp)
    · -- Whichever branch hits, the error is that of its result or of the rest.
      have hbranch : result.eval x c = .error e ∨ rest.eval x c subject = .error e := by
        cases subject <;> simp only at h <;> split at h <;>
          first | exact Or.inl h | exact Or.inr h
      rcases hbranch with h | h
      · exact (eval_eq_error result h).mono fun p hp =>
          List.mem_append_left _ (List.mem_append_right _ hp)
      · exact (arms_eq_error rest h).mono fun p hp => List.mem_append_right _ hp

end

/-! ## 3. Errors of selects -/

-- The error of rows is one in the place of candidates, or comes from an operand for a candidate.
theorem exists_of_rowsOf_eq_error {x : Extractor} {filter : Option Operand} {projections : List Operand}
    {groups : List (Except RunError (List Candidate))} {e : RunError}
    (h : rowsOf x filter projections groups = .error e) :
    .error e ∈ groups ∨ ∃ cs c, .ok cs ∈ groups ∧ c ∈ cs ∧
      ∃ o ∈ projections ++ filter.toList, o.eval x c = .error e := by
  obtain ⟨css, before, group, after, rfl, _, ⟨_, rfl⟩ | ⟨c, behind, rfl, hc⟩⟩ := rowsOf_eq_error h
  · exact .inl (List.mem_append_right _ List.mem_cons_self)
  · refine .inr ⟨_, c, List.mem_append_right _ List.mem_cons_self,
      List.mem_append_right _ List.mem_cons_self, ?_⟩
    rcases row?_eq_error hc with ⟨condition, rfl, he⟩ | ⟨_, _, o, _, _, rfl, _, he⟩
    · exact ⟨condition, List.mem_append_right _ List.mem_cons_self, he⟩
    · exact ⟨o, List.mem_append_left _ (List.mem_append_right _ List.mem_cons_self), he⟩

/-- Why a select has no rows: an error from outside, an operator of one of its selects for a candidate
that is offered to it, or a buffer that there is not. -/
inductive SelectStep.Fails (w : World) (store : Store) (wires : Nat) (q : SelectStep) :
    RunError → Prop
  | outside {e : RunError} (h : e.isOutside) : Fails w store wires q e
  | operator {p : SelectStep} {x : Extractor} {c : Candidate} {o : Operand}
      {error : OperatorError} (hp : p ∈ q.selects) (hc : p.Offers w store wires x c)
      (ho : o ∈ p.operands) (h : OperatorFails x c o.parts error) :
      Fails w store wires q (.operator error)
  | unknown {p : SelectStep} {name : String} (hp : p ∈ q.selects) (hsource : p.source = .buffer name)
      (h : store.get? name = none) : Fails w store wires q (.store (.unknownBuffer name))

-- What fails within the url query of a select fails within the select.
theorem SelectStep.Fails.inner {w : World} {store : Store} {wires : Nat} {q inner : SelectStep}
    {e : RunError} (h : inner.Fails w store wires e) (hsub : inner.selects ⊆ q.selects) :
    q.Fails w store wires e := by
  cases h with
  | outside h => exact .outside h
  | operator hp hc ho h => exact .operator (hsub hp) hc ho h
  | unknown hp hsource h => exact .unknown (hsub hp) hsource h

-- The errors in the place of candidates come from outside.
theorem isOutside_of_mem_groups {w : World} {store : Store} {wires wires' : Nat} {x : Extractor}
    {source : SourceStep} {groups : List (Except RunError (List Candidate))} {e : RunError}
    (h : source.groups w store wires x = .ok (groups, wires')) (he : .error e ∈ groups) :
    e.isOutside := by
  -- Errors stand only in the places of wires.
  have hdownload : ∀ kind options first urls,
      (.error e : Except RunError (List Candidate)) ∈ w.downloadGroups x kind options first urls →
        e.isOutside := by
    intro kind options first urls hmem
    obtain ⟨i, hi, hcandidates⟩ := List.mem_mapIdx.mp hmem
    exact isOutside_of_wireCandidates hcandidates
  cases source with
  | single =>
    cases h
    cases List.mem_singleton.mp he
  | buffer name =>
    obtain ⟨b, _, rfl, _⟩ := groups_buffer_eq_ok h
    cases List.mem_singleton.mp he
  | download kind url options =>
    cases h
    exact hdownload _ _ _ _ he
  | downloadEach kind query options =>
    unfold SourceStep.groups at h
    obtain ⟨p, _, h⟩ := Except.bind_eq_ok.mp h
    cases h
    exact hdownload _ _ _ _ he

/-- The error of a select is one of those that selects have. -/
theorem SelectStep.rows_eq_error {w : World} {store : Store} {wires : Nat} {e : RunError} :
    (q : SelectStep) → q.rows w store wires = .error e → q.Fails w store wires e
  | ⟨columns, projections, source, filter⟩, h => by
    rcases SelectStep.exists_of_rows_error h with h | ⟨x, hx, h | ⟨groups, wires', hgroups, h⟩⟩
    · exact .outside (isOutside_of_prepare h)
    · cases source with
      | single | download => cases h
      | buffer name =>
        obtain ⟨hb, rfl⟩ := groups_buffer_eq_error h
        exact .unknown (SelectStep.self_mem_selects _) rfl hb
      | downloadEach kind query options =>
        unfold SourceStep.groups at h
        rcases Except.bind_eq_error.mp h with h | ⟨_, _, h⟩
        · -- By induction the url query fails for a reason within it.
          refine (SelectStep.rows_eq_error query h).inner fun p hp => ?_
          rw [SelectStep.selects]
          exact List.mem_cons_of_mem _ hp
        · cases h
    · rcases exists_of_rowsOf_eq_error h with he | ⟨cs, c, hcs, hc, o, ho, he⟩
      · exact .outside (isOutside_of_mem_groups hgroups he)
      · -- The candidate was offered, and the operator is within one of the operands of the select.
        rcases eval_eq_error o he with houtside | ⟨error, rfl, hfails⟩
        · exact .outside houtside
        · exact .operator (SelectStep.self_mem_selects _)
            ⟨hx, groups, wires', hgroups, cs, hcs, hc⟩ ho hfails

end Quarry
