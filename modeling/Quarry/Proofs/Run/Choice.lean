import Quarry.Proofs.Run.Failures

/-!
# Branches of cases

A case tests its branches in order and takes the result of the first one that hits. What stands behind that
branch is left alone. A case with a subject is the same as one without, if each condition is replaced by its
comparison with the subject, although the subject is then evaluated once for each branch.
-/

namespace Quarry

/-! ## 1. Definitions -/

/-- A branch of a case. -/
structure Branch where
  condition : Operand
  result : Operand

/-- The branch that tests whether its condition equals a subject, for a case without one. -/
def Branch.against (subject : Operand) (b : Branch) : Branch :=
  ⟨.binary .equal subject b.condition, b.result⟩

/-- Branches in order, with the result that is left if none of them hits. -/
def Arms.ofList (otherwise : Option Operand) : List Branch → Arms
  | [] => match otherwise with
    | none => .done
    | some result => .otherwise result
  | b :: rest => .arm b.condition b.result (ofList otherwise rest)

/-- A case with a subject, or without one. -/
def Operand.ofCase (subject : Option Operand) (branches : List Branch) (otherwise : Option Operand) :
    Operand :=
  match subject with
  | some s => .simpleCase s (.ofList otherwise branches)
  | none => .searchedCase (.ofList otherwise branches)

/-- The value of a condition hits: it equals that of the subject, or counts as true where there is no
subject. -/
def Value.Hits (subject : Option Value) (v : Value) : Prop :=
  match subject with
  | some s => s.looseEq? v = some true
  | none => v.isTruthy = true

instance (subject : Option Value) (v : Value) : Decidable (v.Hits subject) :=
  match subject with
  | some s => inferInstanceAs (Decidable (s.looseEq? v = some true))
  | none => inferInstanceAs (Decidable (v.isTruthy = true))

section Rows

variable (x : Extractor) (row : Candidate)

/-- The value of a subject, where there is one. -/
def subjectValue (subject : Option Operand) : Except RunError (Option Value) :=
  subject.mapM (Operand.eval x row)

/-- The condition of a branch has a value that hits. -/
def Branch.Hits (subject : Option Value) (b : Branch) : Prop :=
  ∃ v, b.condition.eval x row = .ok v ∧ v.Hits subject

/-- The condition of a branch has a value that does not hit. -/
def Branch.Misses (subject : Option Value) (b : Branch) : Prop :=
  ∃ v, b.condition.eval x row = .ok v ∧ ¬v.Hits subject

/-- The first branch that hits, with the branches before it. -/
structure FirstHit (subject : Option Value) (before : List Branch) (b : Branch) : Prop where
  before : ∀ a ∈ before, a.Misses x row subject
  hits : b.Hits x row subject

end Rows

/-- How a case comes to its value for a row. -/
structure TestsInOrder (x : Extractor) (row : Candidate) (subject : Option Operand)
    (branches : List Branch) (otherwise : Option Operand) : Prop where
  /-- A subject without a value leaves the case without one. -/
  unknown : ∀ e, subjectValue x row subject = .error e →
    (Operand.ofCase subject branches otherwise).eval x row = .error e
  /-- Some branch is the first that hits, or the first condition without a value comes before any hit, or
  no branch hits. -/
  outcomes : ∀ s, (∃ before b after, branches = before ++ b :: after ∧ FirstHit x row s before b) ∨
    (∃ before b after e, branches = before ++ b :: after ∧ (∀ a ∈ before, a.Misses x row s) ∧
      b.condition.eval x row = .error e) ∨
    ∀ b ∈ branches, b.Misses x row s
  /-- The first branch that hits gives the value or the error of its result. -/
  hit : ∀ s before b after, subjectValue x row subject = .ok s → branches = before ++ b :: after →
    FirstHit x row s before b →
    (Operand.ofCase subject branches otherwise).eval x row = b.result.eval x row
  /-- A condition without a value that comes before any hit gives its error. -/
  fails : ∀ s before b after e, subjectValue x row subject = .ok s → branches = before ++ b :: after →
    (∀ a ∈ before, a.Misses x row s) → b.condition.eval x row = .error e →
    (Operand.ofCase subject branches otherwise).eval x row = .error e
  /-- If no branch hits, the result that is left gives the value, or else it is null. -/
  miss : ∀ s, subjectValue x row subject = .ok s → (∀ b ∈ branches, b.Misses x row s) →
    (Operand.ofCase subject branches otherwise).eval x row =
      (otherwise.map (Operand.eval x row)).getD (.ok .null)
  /-- Nothing but the conditions up to the first hit and its result has a part in the value: all other
  results, the branches behind it and what is left may be replaced by any operands. -/
  leaves : ∀ s before b after, subjectValue x row subject = .ok s → branches = before ++ b :: after →
    FirstHit x row s before b → ∀ before' after' otherwise',
      before'.map Branch.condition = before.map Branch.condition →
      (Operand.ofCase subject (before' ++ b :: after') otherwise').eval x row =
        (Operand.ofCase subject branches otherwise).eval x row

/-! ## 2. Branches -/

-- The branches of any case are those of a list.
theorem Arms.exists_ofList : (arms : Arms) → ∃ otherwise branches, arms = .ofList otherwise branches
  | .arm condition result rest => by
    obtain ⟨otherwise, branches, hrest⟩ := rest.exists_ofList
    exact ⟨otherwise, ⟨condition, result⟩ :: branches, by rw [ofList, hrest]⟩
  | .otherwise result => ⟨some result, [], rfl⟩
  | .done => ⟨none, [], rfl⟩

theorem Value.hits_null (v : Value) : ¬v.Hits (some .null) := by
  intro h
  cases h

variable {x : Extractor} {row : Candidate} {otherwise : Option Operand} {b : Branch}
  {rest before after : List Branch} {s : Option Value}

-- A value hits if the test of the case says so.
theorem hits_iff {v : Value} : v.Hits s ↔ (match s with
    | some s => (s.looseEq? v).getD false
    | none => v.isTruthy) = true := by
  cases s with
  | none => rfl
  | some s =>
    show s.looseEq? v = some true ↔ (s.looseEq? v).getD false = true
    cases s.looseEq? v <;> simp

theorem eval_of_hits (h : b.Hits x row s) :
    (Arms.ofList otherwise (b :: rest)).eval x row s = b.result.eval x row := by
  obtain ⟨v, hv, hhit⟩ := h
  rw [Arms.ofList, Arms.eval, hv]
  exact if_pos (hits_iff.mp hhit)

theorem eval_of_misses (h : b.Misses x row s) :
    (Arms.ofList otherwise (b :: rest)).eval x row s = (Arms.ofList otherwise rest).eval x row s := by
  obtain ⟨v, hv, hmiss⟩ := h
  rw [Arms.ofList, Arms.eval, hv]
  exact if_neg fun htest => hmiss (hits_iff.mpr htest)

theorem eval_of_error {e : RunError} (h : b.condition.eval x row = .error e) :
    (Arms.ofList otherwise (b :: rest)).eval x row s = .error e := by
  rw [Arms.ofList, Arms.eval, h]
  rfl

-- Branches that do not hit are passed over.
theorem eval_append (h : ∀ a ∈ before, a.Misses x row s) :
    (Arms.ofList otherwise (before ++ rest)).eval x row s =
      (Arms.ofList otherwise rest).eval x row s := by
  induction before with
  | nil => rfl
  | cons a before ih =>
    rw [List.forall_mem_cons] at h
    rw [List.cons_append, eval_of_misses h.1, ih h.2]

theorem eval_nil :
    (Arms.ofList otherwise []).eval x row s =
      (otherwise.map (Operand.eval x row)).getD (.ok .null) := by
  cases otherwise <;> rfl

-- Whether a branch misses is a matter of its condition alone.
theorem misses_of_conditions {before' : List Branch}
    (hsame : before'.map Branch.condition = before.map Branch.condition)
    (h : ∀ a ∈ before, a.Misses x row s) : ∀ a ∈ before', a.Misses x row s := by
  intro a' ha'
  have hcondition : a'.condition ∈ before.map Branch.condition :=
    hsame ▸ List.mem_map_of_mem ha'
  obtain ⟨a, ha, heq⟩ := List.mem_map.mp hcondition
  have hmiss := h a ha
  rw [Branch.Misses, heq] at hmiss
  exact hmiss

-- The conditions are tested until one hits or has no value.
theorem outcomes (branches : List Branch) (s : Option Value) :
    (∃ before b after, branches = before ++ b :: after ∧ FirstHit x row s before b) ∨
      (∃ before b after e, branches = before ++ b :: after ∧ (∀ a ∈ before, a.Misses x row s) ∧
        b.condition.eval x row = .error e) ∨
      ∀ b ∈ branches, b.Misses x row s := by
  induction branches with
  | nil => simp
  | cons b rest ih =>
    cases hb : b.condition.eval x row with
    | error e => exact .inr (.inl ⟨[], b, rest, e, rfl, by simp, hb⟩)
    | ok v =>
      by_cases hhit : v.Hits s
      · exact .inl ⟨[], b, rest, rfl, by simp, v, hb, hhit⟩
      · -- The first branch misses, so that the outcome is that of the others.
        have hmiss : b.Misses x row s := ⟨v, hb, hhit⟩
        rcases ih with ⟨before, c, after, rfl, hfirst⟩ | ⟨before, c, after, e, rfl, hbefore, he⟩ | hall
        · exact .inl ⟨b :: before, c, after, rfl, List.forall_mem_cons.mpr ⟨hmiss, hfirst.before⟩,
            hfirst.hits⟩
        · exact .inr (.inl ⟨b :: before, c, after, e, rfl,
            List.forall_mem_cons.mpr ⟨hmiss, hbefore⟩, he⟩)
        · exact .inr (.inr (List.forall_mem_cons.mpr ⟨hmiss, hall⟩))

/-! ## 3. Cases -/

variable {subject : Option Operand} {branches : List Branch}

theorem eval_ofCase :
    (Operand.ofCase subject branches otherwise).eval x row = (do
      let s ← subjectValue x row subject
      (Arms.ofList otherwise branches).eval x row s) := by
  cases subject with
  | none => rfl
  | some o =>
    show (o.eval x row >>= _) = ((some <$> o.eval x row) >>= _)
    cases o.eval x row <;> rfl

theorem eval_ofCase_of_ok (hs : subjectValue x row subject = .ok s) :
    (Operand.ofCase subject branches otherwise).eval x row =
      (Arms.ofList otherwise branches).eval x row s := by
  rw [eval_ofCase, hs]
  rfl

theorem eval_of_firstHit (hs : subjectValue x row subject = .ok s) (h : FirstHit x row s before b) :
    (Operand.ofCase subject (before ++ b :: after) otherwise).eval x row = b.result.eval x row := by
  rw [eval_ofCase_of_ok hs, eval_append h.before, eval_of_hits h.hits]

theorem testsInOrder : TestsInOrder x row subject branches otherwise where
  unknown e he := by
    rw [eval_ofCase, he]
    rfl
  outcomes := outcomes branches
  hit s before b after hs hsplit h := by
    rw [hsplit]
    exact eval_of_firstHit hs h
  fails s before b after e hs hsplit hbefore he := by
    rw [hsplit, eval_ofCase_of_ok hs, eval_append hbefore, eval_of_error he]
  miss s hs h := by
    rw [eval_ofCase_of_ok hs, ← List.append_nil branches, eval_append h, eval_nil]
  leaves s before b after hs hsplit h before' after' otherwise' hsame := by
    have hfirst : FirstHit x row s before' b := ⟨misses_of_conditions hsame h.before, h.hits⟩
    rw [hsplit, eval_of_firstHit hs hfirst, eval_of_firstHit hs h]

/-! ## 4. Comparisons with the subject -/

-- A comparison that is tested as a condition hits where the value that it compares hits.
theorem isTruthy_equal (a v : Value) :
    ((((Operator.equal.compare? a v).map Value.boolean).getD .null).isTruthy = true) ↔
      v.Hits (some a) := by
  show _ ↔ a.looseEq? v = some true
  rw [Operator.compare?]
  rcases a.looseEq? v with _ | _ | _ <;> simp [Value.isTruthy]

-- The comparison evaluates the subject first.
theorem eval_against {o : Operand} {a : Value} (ho : o.eval x row = .ok a) :
    (b.against o).condition.eval x row = (do
      let v ← b.condition.eval x row
      return ((Operator.equal.compare? a v).map Value.boolean).getD .null) := by
  show (Operand.binary .equal o b.condition).eval x row = _
  rw [eval_binary rfl, ho]
  rfl

theorem hits_against {o : Operand} {a : Value} (ho : o.eval x row = .ok a)
    (h : b.Hits x row (some a)) : (b.against o).Hits x row none := by
  obtain ⟨v, hv, hhit⟩ := h
  refine ⟨_, ?_, (isTruthy_equal a v).mpr hhit⟩
  rw [eval_against ho, hv]
  rfl

theorem misses_against {o : Operand} {a : Value} (ho : o.eval x row = .ok a)
    (h : b.Misses x row (some a)) : (b.against o).Misses x row none := by
  obtain ⟨v, hv, hmiss⟩ := h
  refine ⟨_, ?_, fun htruthy => hmiss ((isTruthy_equal a v).mp htruthy)⟩
  rw [eval_against ho, hv]
  rfl

-- If the subject has a value, evaluating it once is the same as evaluating it for each branch.
theorem eval_arms_against {o : Operand} {a : Value} (ho : o.eval x row = .ok a) (branches : List Branch) :
    (Arms.ofList otherwise (branches.map (Branch.against o))).eval x row none =
      (Arms.ofList otherwise branches).eval x row (some a) := by
  induction branches with
  | nil => rw [List.map_nil, eval_nil, eval_nil]
  | cons b rest ih =>
    rw [List.map_cons]
    cases hb : b.condition.eval x row with
    | error e =>
      have hagainst : (b.against o).condition.eval x row = .error e := by
        rw [eval_against ho, hb]
        rfl
      rw [eval_of_error hb, eval_of_error hagainst]
    | ok v =>
      by_cases hhit : v.Hits (some a)
      · have hhits : b.Hits x row (some a) := ⟨v, hb, hhit⟩
        rw [eval_of_hits hhits, eval_of_hits (hits_against ho hhits)]
        rfl
      · have hmiss : b.Misses x row (some a) := ⟨v, hb, hhit⟩
        rw [eval_of_misses hmiss, eval_of_misses (misses_against ho hmiss), ih]

theorem eval_ofCase_against {o : Operand} (hne : branches ≠ []) :
    (Operand.ofCase (some o) branches otherwise).eval x row =
      (Operand.ofCase none (branches.map (Branch.against o)) otherwise).eval x row := by
  show (o.eval x row >>= fun a => (Arms.ofList otherwise branches).eval x row (some a)) =
    (Arms.ofList otherwise (branches.map (Branch.against o))).eval x row none
  cases ho : o.eval x row with
  | ok a => exact (eval_arms_against ho branches).symm
  | error e =>
    -- The first comparison already fails with the subject.
    cases branches with
    | nil => exact absurd rfl hne
    | cons b rest =>
      have hagainst : (b.against o).condition.eval x row = .error e := by
        show (Operand.binary .equal o b.condition).eval x row = _
        rw [eval_binary rfl, ho]
        rfl
      rw [List.map_cons, eval_of_error hagainst]
      rfl

/-- Any case has a list of branches. With a subject it has the value or the error of the case without one
that compares the subject in each branch. Both test their branches in order and leave alone what stands
behind the first hit. No branch hits a subject that is null. -/
theorem case_forms_agree (x : Extractor) (row : Candidate) :
    (∀ arms : Arms, ∃ otherwise branches, arms = .ofList otherwise branches) ∧
    (∀ subject branches otherwise, branches ≠ [] →
      (Operand.ofCase (some subject) branches otherwise).eval x row =
        (Operand.ofCase none (branches.map (Branch.against subject)) otherwise).eval x row) ∧
    (∀ subject branches otherwise, TestsInOrder x row subject branches otherwise) ∧
    ∀ (subject : Operand), subject.eval x row = .ok .null → ∀ branches otherwise,
      (∀ b : Branch, ¬b.Hits x row (some .null)) ∧
      ((∀ b ∈ branches, ∃ v, b.condition.eval x row = .ok v) →
        (Operand.ofCase (some subject) branches otherwise).eval x row =
          (otherwise.map (Operand.eval x row)).getD (.ok .null)) := by
  refine ⟨Arms.exists_ofList, fun _ _ _ hne => eval_ofCase_against hne, fun _ _ _ => testsInOrder,
    fun subject hnull branches otherwise => ⟨fun b ⟨v, _, hhit⟩ => v.hits_null hhit, fun h => ?_⟩⟩
  have hvalue : subjectValue x row (some subject) = .ok (some .null) := by
    show some <$> subject.eval x row = _
    rw [hnull]
    rfl
  apply testsInOrder.miss (some .null) hvalue
  intro b hb
  obtain ⟨v, hv⟩ := h b hb
  exact ⟨v, hv, v.hits_null⟩

/-- A case over a cell with the text of a number. Whatever is not needed divides by zero. -/
theorem case_forms_agree_text_number :
    let row : Candidate := .stored [.string " 5 "]
    let fails : Operand := .binary .divide (.literal (.integer 1)) (.literal (.integer 0))
    let missing : Branch := ⟨.literal .null, fails⟩
    let five : Branch := ⟨.literal (.integer 5), .literal (.string "five")⟩
    let branches := [missing] ++ five :: [⟨fails, fails⟩]
    fails.eval .empty row = .error (.operator .divisionByZero) ∧
      FirstHit .empty row (some (.string " 5 ")) [missing] five ∧
      (Operand.ofCase (some (.column 0)) branches (some fails)).eval .empty row =
        .ok (.string "five") ∧
      (Operand.ofCase none (branches.map (Branch.against (.column 0))) (some fails)).eval .empty row =
        .ok (.string "five") := by
  intro row fails missing five branches
  have hfirst : FirstHit .empty row (some (.string " 5 ")) [missing] five := by
    refine ⟨fun a ha => ?_, .integer 5, rfl, ?_⟩
    · rw [List.mem_singleton.mp ha]
      exact ⟨.null, rfl, by decide⟩
    · show (Value.string " 5 ").looseEq? (.integer 5) = some true
      decide +kernel
  obtain ⟨_, hsame, horder, _⟩ := case_forms_agree .empty row
  have hvalue : (Operand.ofCase (some (.column 0)) branches (some fails)).eval .empty row =
      .ok (.string "five") :=
    (horder _ _ _).hit _ [missing] five [⟨fails, fails⟩] rfl rfl hfirst
  refine ⟨by decide +kernel, hfirst, hvalue, ?_⟩
  rw [← hsame _ branches _ (List.cons_ne_nil _ _)]
  exact hvalue

end Quarry
