import Quarry.Proofs.Run.Failures
import Quarry.Proofs.Run.Formulas

/-!
# Evaluation under watch

The evaluation of operands with a note of each pattern that it compiles. It gives what evaluation gives,
and notes only patterns that the extractor does not hold.
-/

namespace Quarry

/-! ## 1. Evaluation with notes -/

/-- A computation that notes the patterns that it compiles. -/
abbrev Watched := ExceptT RunError (StateM (List String))

/-- The matcher of a pattern: the one that is held, or else compiled now and noted. -/
def Extractor.matcherNoted (x : Extractor) (source : String) : Watched Matcher :=
  match x.patterns.lookup source with
  | some matcher => pure matcher
  | none => do
    modify fun notes => notes ++ [source]
    liftExcept (Extractor.readPattern source)

def Extractor.cutNoted (x : Extractor) (e : Extraction) (text : String) :
    Watched (Option String) :=
  match e.pattern with
  | none => return some text
  | some pattern => do
    let matcher ← x.matcherNoted pattern
    match e.template with
    | some template => return matcher.replaceAll? text template
    | none => return matcher.matchAll? text

def Extractor.extractNoted (x : Extractor) (e : Extraction) (context : Page.Spot) :
    Watched Value := do
  let selector ← liftExcept (x.selector e.selector)
  match (selector.select context).head? >>= Extractor.take e.part with
  | none => return .null
  | some text => return ((← x.cutNoted e text).map Value.string).getD .null

def Candidate.extractNoted (x : Extractor) : Candidate → Extraction → Watched Value
  | .page _ place, e => x.extractNoted e place
  | _, _ => return .null

mutual

/-- The value of an operand, with a note of each pattern that is compiled for it. -/
def Operand.evalNoted (x : Extractor) (row : Candidate) : Operand → Watched Value
  | .literal value => return value
  | .column index => return row.column index
  | .field field => return row.field field
  | .property name => return row.property name
  | .extract extraction => row.extractNoted x extraction
  | .simpleCase subject arms => do arms.evalNoted x row (some (← subject.evalNoted x row))
  | .searchedCase arms => arms.evalNoted x row none
  | .binary .and left right => do
    if (← left.evalNoted x row).isTruthy then
      return .boolean (← right.evalNoted x row).isTruthy
    else return .boolean false
  | .binary .or left right => do
    if (← left.evalNoted x row).isTruthy then return .boolean true
    else return .boolean (← right.evalNoted x row).isTruthy
  | .binary op left right => do
    let a ← left.evalNoted x row
    let b ← right.evalNoted x row
    liftExcept ((op.apply a b).mapError RunError.operator)
  | .not operand => do
    match ← operand.evalNoted x row with
    | .null => return .null
    | value => return .boolean (!value.isTruthy)

/-- The value of the first branch that hits, with such notes. -/
def Arms.evalNoted (x : Extractor) (row : Candidate) (subject : Option Value) :
    Arms → Watched Value
  | .done => return .null
  | .otherwise result => result.evalNoted x row
  | .arm condition result rest => do
    let value ← condition.evalNoted x row
    let hit := match subject with
      | some subject => (subject.looseEq? value).getD false
      | none => value.isTruthy
    if hit then result.evalNoted x row else rest.evalNoted x row subject

end

/-! ## 2. What is read -/

/-- A watched computation gives a result, and what it reads is allowed: the patterns that it notes, and
the formula that its error is about. -/
structure Watched.Reads {α : Type} (allowed : Formula → Prop) (m : Watched α)
    (r : Except RunError α) : Prop where
  notes : ∀ notes, ∃ new, (∀ source ∈ new, allowed (.pattern source)) ∧
    m.run.run notes = (r, notes ++ new)
  error : ∀ f, r = .error (Formula.error f) → allowed f

namespace Watched

variable {α β : Type} {allowed : Formula → Prop}

-- A computation that reads nothing notes nothing.
theorem Reads.silent {m : Watched α} {r : Except RunError α}
    (hrun : ∀ notes, m.run.run notes = (r, notes)) (herror : ∀ f, r ≠ .error (Formula.error f)) :
    Reads allowed m r :=
  ⟨fun notes => ⟨[], nofun, by rw [hrun, List.append_nil]⟩, fun f h => absurd h (herror f)⟩

theorem Reads.pure (a : α) : Reads allowed (Pure.pure a : Watched α) (.ok a) :=
  .silent (fun _ => rfl) nofun

theorem Reads.mono {more : Formula → Prop} {m : Watched α} {r : Except RunError α}
    (h : Reads allowed m r) (hsub : ∀ f, allowed f → more f) : Reads more m r := by
  refine ⟨fun notes => ?_, fun f hf => hsub f (h.error f hf)⟩
  obtain ⟨new, hnew, hrun⟩ := h.notes notes
  exact ⟨new, fun source hs => hsub _ (hnew source hs), hrun⟩

-- A sequence reads what its parts read.
theorem Reads.bind {m : Watched α} {r : Except RunError α} {f : α → Watched β}
    {g : α → Except RunError β} (h : Reads allowed m r)
    (hnext : ∀ a, r = .ok a → Reads allowed (f a) (g a)) : Reads allowed (m >>= f) (r >>= g) := by
  constructor
  · intro notes
    obtain ⟨new, hnew, hrun⟩ := h.notes notes
    simp only [ExceptT.run_bind, StateT.run_bind]
    rw [hrun]
    cases r with
    | error e => exact ⟨new, hnew, rfl⟩
    | ok a =>
      obtain ⟨new', hnew', hrun'⟩ := (hnext a rfl).notes (notes ++ new)
      refine ⟨new ++ new', fun source hs => ?_, hrun'.trans ?_⟩
      · exact (List.mem_append.mp hs).elim (hnew source) (hnew' source)
      · rw [List.append_assoc]
        rfl
  · intro formula hformula
    rcases Except.bind_eq_error.mp hformula with hr | ⟨a, ha, hg⟩
    · exact h.error formula hr
    · exact (hnext a ha).error formula hg

end Watched

open Watched (Reads)

/-- The formulas of operands that an extractor does not hold. -/
def Extractor.Lacks (x : Extractor) (parts : List Operand) (f : Formula) : Prop :=
  MentionedIn parts f ∧ ¬x.Holds f

theorem Extractor.Lacks.mono {x : Extractor} {parts more : List Operand} {f : Formula}
    (h : x.Lacks parts f) (hsub : parts ⊆ more) : x.Lacks more f :=
  ⟨h.1.mono hsub, h.2⟩

section Extract

variable {x : Extractor} {e : Extraction} {row : Candidate}

-- A formula of an extraction is one of the operand for it.
theorem lacks_of_mem {f : Formula} (hf : f ∈ e.formulas) (hheld : ¬x.Holds f) :
    x.Lacks (Operand.extract e).parts f :=
  ⟨⟨e, Operand.self_mem_parts _, hf⟩, hheld⟩

theorem selector_reads :
    Reads (x.Lacks (Operand.extract e).parts) (liftExcept (x.selector e.selector) : Watched Selector)
      (x.selector e.selector) := by
  refine ⟨fun notes => ⟨[], nofun, ?_⟩, fun f hf => ?_⟩
  · rw [List.append_nil]
    cases x.selector e.selector <;> rfl
  · obtain ⟨he, _, hheld⟩ := Extractor.selector_eq_error hf
    cases Formula.error_inj he
    exact lacks_of_mem List.mem_cons_self hheld

-- Only a pattern that is not held is compiled and noted.
theorem matcherNoted_reads {pattern : String} (hpattern : e.pattern = some pattern) :
    Reads (x.Lacks (Operand.extract e).parts) (x.matcherNoted pattern) (x.matcher pattern) := by
  have hmem : Formula.pattern pattern ∈ e.formulas := by
    rw [Extraction.formulas, hpattern]
    exact List.mem_cons_of_mem _ List.mem_cons_self
  refine ⟨fun notes => ?_, fun f hf => ?_⟩
  · unfold Extractor.matcherNoted Extractor.matcher
    cases hlookup : x.patterns.lookup pattern with
    | some matcher =>
      exact ⟨[], fun _ hs => absurd hs List.not_mem_nil, by rw [List.append_nil]; rfl⟩
    | none =>
      have hheld : ¬x.Holds (.pattern pattern) := by simp [Extractor.Holds, hlookup]
      refine ⟨[pattern], fun source hs => ?_, ?_⟩
      · cases List.mem_singleton.mp hs
        exact lacks_of_mem hmem hheld
      · cases Extractor.readPattern pattern <;> rfl
  · obtain ⟨he, _, hheld⟩ := Extractor.matcher_eq_error hf
    cases Formula.error_inj he
    exact lacks_of_mem hmem hheld

theorem extractNoted_reads :
    Reads (x.Lacks (Operand.extract e).parts) (row.extractNoted x e) (row.extract x e) := by
  -- Only a place of a page is extracted from.
  cases row with
  | alone | stored _ | image _ | object _ | failed _ => exact .pure Value.null
  | page p place =>
    refine selector_reads.bind fun selector _ => ?_
    cases (selector.select place).head? >>= Extractor.take e.part with
    | none => exact .pure Value.null
    | some text =>
      refine Reads.bind (r := x.cut e text) ?_ fun cut _ => .pure _
      unfold Extractor.cutNoted Extractor.cut
      cases hpattern : e.pattern with
      | none => exact .pure _
      | some pattern =>
        refine (matcherNoted_reads hpattern).bind fun matcher _ => ?_
        cases e.template <;> exact .pure _

end Extract

-- An operator that does not join conditions is applied to the values of both sides.
theorem evalNoted_binary {x : Extractor} {row : Candidate} {op : Operator} {left right : Operand}
    (hop : op.isLogical = false) :
    (Operand.binary op left right).evalNoted x row = (do
      let a ← left.evalNoted x row
      let b ← right.evalNoted x row
      liftExcept ((op.apply a b).mapError RunError.operator)) := by
  cases op <;> first | rfl | cases hop

mutual

/-- Watching an evaluation does not change its value, and it reads only formulas of the operand that are
not held. -/
theorem evalNoted_reads {x : Extractor} {row : Candidate} : (o : Operand) →
    Reads (x.Lacks o.parts) (o.evalNoted x row) (o.eval x row)
  -- By induction on operands and branches. The parts of what is computed are among those of the whole.
  | .literal _ => .pure _
  | .column _ => .pure _
  | .field _ => .pure _
  | .property _ => .pure _
  | .extract _ => extractNoted_reads
  | .simpleCase subject arms => by
    unfold Operand.evalNoted Operand.eval
    rw [Operand.parts]
    refine ((evalNoted_reads subject).mono fun f hf => hf.mono fun p hp => ?_).bind fun v _ =>
      (arms_evalNoted_reads arms (some v)).mono fun f hf => hf.mono fun p hp => ?_
    · exact List.mem_cons_of_mem _ (List.mem_append_left _ hp)
    · exact List.mem_cons_of_mem _ (List.mem_append_right _ hp)
  | .searchedCase arms => by
    unfold Operand.evalNoted Operand.eval
    rw [Operand.parts]
    exact (arms_evalNoted_reads arms none).mono fun f hf => hf.mono fun p hp =>
      List.mem_cons_of_mem _ hp
  | .binary op left right => by
    have hleft : Reads (x.Lacks (Operand.binary op left right).parts) (left.evalNoted x row)
        (left.eval x row) := (evalNoted_reads left).mono fun f hf => hf.mono fun p hp => by
      rw [Operand.parts]
      exact List.mem_cons_of_mem _ (List.mem_append_left _ hp)
    have hright : Reads (x.Lacks (Operand.binary op left right).parts) (right.evalNoted x row)
        (right.eval x row) := (evalNoted_reads right).mono fun f hf => hf.mono fun p hp => by
      rw [Operand.parts]
      exact List.mem_cons_of_mem _ (List.mem_append_right _ hp)
    cases hlogical : op.isLogical with
    | false =>
      rw [evalNoted_binary hlogical, eval_binary hlogical]
      -- The error of an operator is not about a formula.
      refine hleft.bind fun a _ => hright.bind fun b _ => .silent (fun notes => ?_) fun f hf => ?_
      · cases op.apply a b <;> rfl
      · obtain ⟨_, _, h⟩ := Except.mapError_eq_error.mp hf
        cases f <;> cases h
    | true =>
      -- The right side is computed only where the left side does not decide.
      cases op with
      | and =>
        refine hleft.bind fun a _ => ?_
        cases a.isTruthy with
        | true => exact hright.bind fun b _ => .pure _
        | false => exact .pure _
      | or =>
        refine hleft.bind fun a _ => ?_
        cases a.isTruthy with
        | true => exact .pure _
        | false => exact hright.bind fun b _ => .pure _
      | _ => cases hlogical
  | .not operand => by
    unfold Operand.evalNoted Operand.eval
    rw [Operand.parts]
    refine ((evalNoted_reads operand).mono fun f hf => hf.mono fun p hp =>
      List.mem_cons_of_mem _ hp).bind fun v _ => ?_
    cases v <;> exact .pure _

-- So does watching the branches of a case.
theorem arms_evalNoted_reads {x : Extractor} {row : Candidate} : (arms : Arms) →
    (subject : Option Value) →
      Reads (x.Lacks arms.parts) (arms.evalNoted x row subject) (arms.eval x row subject)
  | .done, _ => .pure _
  | .otherwise result, _ => by
    unfold Arms.evalNoted Arms.eval
    rw [Arms.parts]
    exact evalNoted_reads result
  | .arm condition result rest, subject => by
    unfold Arms.evalNoted Arms.eval
    rw [Arms.parts]
    refine ((evalNoted_reads condition).mono fun f hf => hf.mono fun p hp => ?_).bind fun v _ => ?_
    · exact List.mem_append_left _ (List.mem_append_left _ hp)
    · have hresult : Reads (x.Lacks (condition.parts ++ result.parts ++ rest.parts))
          (result.evalNoted x row) (result.eval x row) :=
        (evalNoted_reads result).mono fun f hf => hf.mono fun p hp =>
          List.mem_append_left _ (List.mem_append_right _ hp)
      have hrest : Reads (x.Lacks (condition.parts ++ result.parts ++ rest.parts))
          (rest.evalNoted x row subject) (rest.eval x row subject) :=
        (arms_evalNoted_reads rest subject).mono fun f hf => hf.mono fun p hp =>
          List.mem_append_right _ hp
      cases subject <;> dsimp only <;> split <;> first | exact hresult | exact hrest

end

end Quarry
