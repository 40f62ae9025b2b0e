import Quarry.Plan.Generate
import Quarry.Proofs.Except
import Quarry.Proofs.Plan.Shape

/-!
# Types of operands

The operands of a plan have types of their own, by the rules that expressions have. Where analysis
gives an expression a type, it becomes an operand, and the operand has the same type.
-/

namespace Quarry

open Script

/-! ## 1. Types -/

/-- The scope of a kind of download. -/
def Scope.ofKind : DownloadKind → Scope
  | .page => .page
  | .image => .image
  | .json => .json

/-- What the operands of a select read, given the buffers declared before it. -/
def SourceStep.scope (catalog : Catalog) : SourceStep → Scope
  | .single => .empty
  | .buffer name => ((catalog.find? name).map Scope.buffer).getD .empty
  | .download kind .. | .downloadEach kind .. => .ofKind kind

mutual

/-- The type of an operand. It has none if it reads what its scope does not have, or if an operator
does not fit its operands. -/
def Operand.type? (scope : Scope) : Operand → Option ValueType
  | .literal value => some value.type
  | .column index =>
    match scope with
    | .buffer schema => schema.columns[index]?.map BufferColumn.type
    | _ => none
  | .field field => if field ∈ scope.fields then some field.type else none
  | .property _ => if scope = .json then some .string else none
  | .extract _ => some .string
  | .simpleCase subject arms => do
    let _ ← subject.type? scope
    arms.type? scope .null
  | .searchedCase arms => arms.type? scope .null
  | .binary op left right => do op.type? (← left.type? scope) (← right.type? scope)
  | .not operand => do
    let _ ← operand.type? scope
    return .boolean

/-- The common type of the results of a case, given that of those so far. -/
def Arms.type? (scope : Scope) (sofar : ValueType) : Arms → Option ValueType
  | .done => some sofar
  | .otherwise result => do sofar.unify? (← result.type? scope)
  | .arm condition result rest => do
    let _ ← condition.type? scope
    let sofar ← sofar.unify? (← result.type? scope)
    rest.type? scope sofar

end

/-! ## 2. Operands of expressions -/

-- Analysis joins branches where their types have a common one.
theorem unify?_of_joinBranch {position : Position} {sofar found t : ValueType}
    (h : joinBranch position sofar found = .ok t) : sofar.unify? found = some t := by
  unfold joinBranch at h
  cases hu : sofar.unify? found with
  | none =>
    rw [hu] at h
    cases h
  | some u =>
    rw [hu] at h
    cases h
    rfl

-- A name that has a type stands for an operand of that type.
theorem ofName_of_columnType? {scope : Scope} {name : String} {t : ValueType}
    (position : Position) (h : scope.columnType? name = some t) :
    ∃ o, Operand.ofName scope name position = .ok o ∧ o.type? scope = some t ∧
      o.extractions = [] := by
  -- Pages and images look the field up in the same way.
  have hfield : (scope.field? name).map PageField.type = some t →
      ∃ f, scope.field? name = some f ∧ (Operand.field f).type? scope = some t := by
    intro h
    obtain ⟨f, hf, rfl⟩ := Option.map_eq_some_iff.mp h
    have hmem : f ∈ scope.fields := List.mem_of_find?_eq_some hf
    refine ⟨f, hf, ?_⟩
    rw [Operand.type?, if_pos hmem]
  cases scope with
  | empty => cases h
  | buffer schema =>
    obtain ⟨i, hi, ht⟩ := Option.bind_eq_some_iff.mp h
    refine ⟨.column i, ?_, ?_, rfl⟩
    · unfold Operand.ofName
      simp only [hi]
    · rw [Operand.type?]
      exact ht
  | page =>
    obtain ⟨f, hf, ht⟩ := hfield h
    refine ⟨.field f, ?_, ht, rfl⟩
    unfold Operand.ofName
    simp only [hf]
  | image =>
    obtain ⟨f, hf, ht⟩ := hfield h
    refine ⟨.field f, ?_, ht, rfl⟩
    unfold Operand.ofName
    simp only [hf]
  -- Every name is a property of an object, so that nothing is looked up.
  | json =>
    have ht : some ValueType.string = some t := h
    refine ⟨.property name, rfl, ?_, rfl⟩
    rw [Operand.type?, if_pos rfl]
    exact ht

mutual

/-- An expression that has a type becomes an operand of that type. It extracts nothing if the
expression picks nothing. -/
theorem ofExpr_of_infer {scope : Scope} : (e : Expr) → {t : ValueType} →
    e.infer scope = .ok t → ∃ o, Operand.ofExpr scope e = .ok o ∧ o.type? scope = some t ∧
      (e.picks = [] → o.extractions = [])
  -- By induction on expressions and branches. Analysis infers the sides before it types the operator,
  -- so each side has an operand before the operator is looked at.
  | .literal value, t, h => by
    cases h
    exact ⟨.literal value, rfl, rfl, fun _ => rfl⟩
  | .column name position, t, h => by
    unfold Expr.infer at h
    cases hc : scope.columnType? name with
    | none =>
      rw [hc] at h
      cases h
    | some t' =>
      rw [hc] at h
      cases h
      obtain ⟨o, ho, ht, hnone⟩ := ofName_of_columnType? position hc
      exact ⟨o, ho, ht, fun _ => hnone⟩
  | .pick pick position, t, h => by
    cases h
    exact ⟨.extract (.ofPick pick), rfl, rfl, fun hpicks => nomatch hpicks⟩
  | .simpleCase subject branches position, t, h => by
    unfold Expr.infer at h
    obtain ⟨s, hs, h⟩ := Except.bind_eq_ok.mp h
    obtain ⟨o, ho, hot, hopicks⟩ := ofExpr_of_infer subject hs
    obtain ⟨arms, harms, harmst, hpicks⟩ := ofBranches_of_infer branches h
    refine ⟨.simpleCase o arms, ?_, ?_, fun hnone => ?_⟩
    · rw [Operand.ofExpr, ho, harms]
      rfl
    · rw [Operand.type?, hot]
      exact harmst
    · obtain ⟨h₁, h₂⟩ := List.append_eq_nil_iff.mp hnone
      rw [Operand.extractions, hopicks h₁, hpicks h₂]
      rfl
  | .searchedCase branches position, t, h => by
    unfold Expr.infer at h
    obtain ⟨arms, harms, harmst, hpicks⟩ := ofBranches_of_infer branches h
    refine ⟨.searchedCase arms, ?_, harmst, hpicks⟩
    rw [Operand.ofExpr, harms]
    rfl
  | .binary op left right position, t, h => by
    unfold Expr.infer at h
    obtain ⟨l, hl, h⟩ := Except.bind_eq_ok.mp h
    obtain ⟨r, hr, h⟩ := Except.bind_eq_ok.mp h
    obtain ⟨a, ha, hat, hapicks⟩ := ofExpr_of_infer left hl
    obtain ⟨b, hb, hbt, hbpicks⟩ := ofExpr_of_infer right hr
    refine ⟨.binary op a b, ?_, ?_, fun hnone => ?_⟩
    · rw [Operand.ofExpr, ha, hb]
      rfl
    · rw [Operand.type?, hat, hbt]
      -- The operands have the types of the sides, so that the operator has the same type again.
      show op.type? l r = some t
      cases ht : op.type? l r with
      | none =>
        rw [ht] at h
        cases h
      | some t' =>
        rw [ht] at h
        cases h
        rfl
    · obtain ⟨h₁, h₂⟩ := List.append_eq_nil_iff.mp hnone
      rw [Operand.extractions, hapicks h₁, hbpicks h₂]
      rfl
  | .not operand, t, h => by
    unfold Expr.infer at h
    obtain ⟨s, hs, h⟩ := Except.bind_eq_ok.mp h
    cases h
    obtain ⟨o, ho, hot, hpicks⟩ := ofExpr_of_infer operand hs
    refine ⟨.not o, ?_, ?_, hpicks⟩
    · rw [Operand.ofExpr, ho]
      rfl
    · rw [Operand.type?, hot]
      rfl

-- The branches of a case whose results have a common type become branches with that type.
theorem ofBranches_of_infer {scope : Scope} {position : Position} : (b : Branches) →
    {sofar t : ValueType} → b.infer scope position sofar = .ok t →
      ∃ arms, Arms.ofBranches scope b = .ok arms ∧ arms.type? scope sofar = some t ∧
        (b.picks = [] → arms.extractions = [])
  -- The type of the results so far is carried along, as analysis carries it.
  | .done, sofar, t, h => by
    cases h
    exact ⟨.done, rfl, rfl, fun _ => rfl⟩
  | .otherwise result, sofar, t, h => by
    unfold Branches.infer at h
    obtain ⟨r, hr, h⟩ := Except.bind_eq_ok.mp h
    obtain ⟨o, ho, hot, hpicks⟩ := ofExpr_of_infer result hr
    refine ⟨.otherwise o, ?_, ?_, hpicks⟩
    · rw [Arms.ofBranches, ho]
      rfl
    · rw [Arms.type?, hot]
      exact unify?_of_joinBranch h
  | .branch condition result rest, sofar, t, h => by
    unfold Branches.infer at h
    obtain ⟨c, hc, h⟩ := Except.bind_eq_ok.mp h
    obtain ⟨r, hr, h⟩ := Except.bind_eq_ok.mp h
    obtain ⟨joined, hjoined, h⟩ := Except.bind_eq_ok.mp h
    obtain ⟨a, ha, hat, hapicks⟩ := ofExpr_of_infer condition hc
    obtain ⟨b, hb, hbt, hbpicks⟩ := ofExpr_of_infer result hr
    obtain ⟨arms, harms, harmst, hpicks⟩ := ofBranches_of_infer rest h
    refine ⟨.arm a b arms, ?_, ?_, fun hnone => ?_⟩
    · rw [Arms.ofBranches, ha, hb, harms]
      rfl
    · -- The rest is typed from the joined type on.
      have hunify := unify?_of_joinBranch hjoined
      rw [Arms.type?, hat, hbt]
      show (sofar.unify? r >>= fun s => arms.type? scope s) = some t
      rw [hunify]
      exact harmst
    · obtain ⟨h₁₂, h₃⟩ := List.append_eq_nil_iff.mp hnone
      obtain ⟨h₁, h₂⟩ := List.append_eq_nil_iff.mp h₁₂
      rw [Arms.extractions, hapicks h₁, hbpicks h₂, hpicks h₃]
      rfl

end

/-! ## 3. Parts of operands -/

mutual

/-- What is within an operand that has a type has a type too. -/
theorem type?_of_mem_parts {scope : Scope} : (o : Operand) → {t : ValueType} →
    o.type? scope = some t → ∀ p ∈ o.parts, ∃ t', p.type? scope = some t'
  -- Either the part is the operand itself, or it is within one that was typed for its sake.
  | .simpleCase subject arms, t, h, p, hp => by
    rw [Operand.parts] at hp
    rcases List.mem_cons.mp hp with rfl | hp
    · exact ⟨t, h⟩
    · rw [Operand.type?] at h
      obtain ⟨s, hs, h⟩ := Option.bind_eq_some_iff.mp h
      rcases List.mem_append.mp hp with hp | hp
      · exact type?_of_mem_parts subject hs p hp
      · exact type?_of_mem_arms arms h p hp
  | .searchedCase arms, t, h, p, hp => by
    rw [Operand.parts] at hp
    rcases List.mem_cons.mp hp with rfl | hp
    · exact ⟨t, h⟩
    · rw [Operand.type?] at h
      exact type?_of_mem_arms arms h p hp
  | .binary op left right, t, h, p, hp => by
    rw [Operand.parts] at hp
    rcases List.mem_cons.mp hp with rfl | hp
    · exact ⟨t, h⟩
    · rw [Operand.type?] at h
      obtain ⟨l, hl, h⟩ := Option.bind_eq_some_iff.mp h
      obtain ⟨r, hr, h⟩ := Option.bind_eq_some_iff.mp h
      rcases List.mem_append.mp hp with hp | hp
      · exact type?_of_mem_parts left hl p hp
      · exact type?_of_mem_parts right hr p hp
  | .not operand, t, h, p, hp => by
    rw [Operand.parts] at hp
    rcases List.mem_cons.mp hp with rfl | hp
    · exact ⟨t, h⟩
    · rw [Operand.type?] at h
      obtain ⟨s, hs, h⟩ := Option.bind_eq_some_iff.mp h
      exact type?_of_mem_parts operand hs p hp
  | .literal _, t, h, p, hp => ⟨t, by rw [List.mem_singleton.mp hp]; exact h⟩
  | .column _, t, h, p, hp => ⟨t, by rw [List.mem_singleton.mp hp]; exact h⟩
  | .field _, t, h, p, hp => ⟨t, by rw [List.mem_singleton.mp hp]; exact h⟩
  | .property _, t, h, p, hp => ⟨t, by rw [List.mem_singleton.mp hp]; exact h⟩
  | .extract _, t, h, p, hp => ⟨t, by rw [List.mem_singleton.mp hp]; exact h⟩

-- The same for what is within the branches of a case.
theorem type?_of_mem_arms {scope : Scope} : (arms : Arms) → {sofar t : ValueType} →
    arms.type? scope sofar = some t → ∀ p ∈ arms.parts, ∃ t', p.type? scope = some t'
  | .done, _, _, _, p, hp => nomatch hp
  | .otherwise result, sofar, t, h, p, hp => by
    rw [Arms.type?] at h
    obtain ⟨r, hr, h⟩ := Option.bind_eq_some_iff.mp h
    exact type?_of_mem_parts result hr p hp
  | .arm condition result rest, sofar, t, h, p, hp => by
    rw [Arms.type?] at h
    obtain ⟨c, hc, h⟩ := Option.bind_eq_some_iff.mp h
    obtain ⟨r, hr, h⟩ := Option.bind_eq_some_iff.mp h
    obtain ⟨s, hs, h⟩ := Option.bind_eq_some_iff.mp h
    rw [Arms.parts] at hp
    rcases List.mem_append.mp hp with hp | hp
    · rcases List.mem_append.mp hp with hp | hp
      · exact type?_of_mem_parts condition hc p hp
      · exact type?_of_mem_parts result hr p hp
    · exact type?_of_mem_arms rest h p hp

end

/-- An operand that has a type reads the columns of a buffer only, within its schema. -/
theorem column_of_type? {scope : Scope} {o : Operand} {t : ValueType} (h : o.type? scope = some t)
    {i : Nat} (hi : .column i ∈ o.parts) :
    ∃ schema, scope = .buffer schema ∧ i < schema.columns.length := by
  -- The column is one of the parts, and only a buffer gives a column a type.
  obtain ⟨t', ht'⟩ := type?_of_mem_parts o h _ hi
  cases scope with
  | buffer schema =>
    have ht' : schema.columns[i]?.map BufferColumn.type = some t' := ht'
    obtain ⟨c, hc, _⟩ := Option.map_eq_some_iff.mp ht'
    exact ⟨schema, rfl, (List.getElem?_eq_some_iff.mp hc).1⟩
  | empty | page | image | json => cases ht'

end Quarry
