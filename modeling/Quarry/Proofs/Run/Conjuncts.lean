import Quarry.Plan.Generate
import Quarry.Proofs.Except
import Quarry.Run.Intake

/-!
# Conjuncts of filters

A filter is what stands between its `and`s, from left to right: rows are tested against one conjunct after
the other, up to the first that does not hold or fails. Taking the selector of the rows out of a filter
leaves the other conjuncts in order, and tests rows as if that one were true.
-/

namespace Quarry

open Script

/-! ## 1. Definitions -/

/-- The operands of nested `and`s, from left to right. -/
def Script.Expr.conjuncts : Expr → List Expr
  | .binary .and left right _ => left.conjuncts ++ right.conjuncts
  | e => [e]

/-- The conjuncts of a filter that may be missing. -/
def Script.Expr.conjunctsOf (filter : Option Expr) : List Expr := (filter.map conjuncts).getD []

/-- The filter with `true` in the place of the conjunct that has the given number of others in front. -/
def Script.Expr.assume (index : Nat) : Expr → Expr
  | .binary .and left right position =>
    if index < left.conjuncts.length then .binary .and (left.assume index) right position
    else .binary .and left (right.assume (index - left.conjuncts.length)) position
  | _ => .literal (.boolean true)

/-- The expression is `nodes = 'selector'`, with the word in any ASCII letter case. -/
inductive Script.Expr.Selects (selector : String) : Expr → Prop where
  | intro {name : String} (hname : name.toLower = "nodes") (position position' : Position) :
      Selects selector
        (.binary .equal (.column name position) (.literal (.string selector)) position')

/-- The operands of nested `and`s of a plan, from left to right. -/
def Operand.conjuncts : Operand → List Operand
  | .binary .and left right => left.conjuncts ++ right.conjuncts
  | o => [o]

/-! ## 2. Taking a conjunct out -/

theorem conjuncts_ne_nil (e : Expr) : e.conjuncts ≠ [] := by
  fun_induction Expr.conjuncts e with
  | case1 left right _ ihleft _ => exact List.append_ne_nil_of_left_ne_nil ihleft _
  | case2 e _ => exact List.cons_ne_nil e []

theorem nodesSelector?_eq_some {e : Expr} {selector : String} :
    e.nodesSelector? = some selector ↔ e.Selects selector := by
  have hword : "nodes".toLower = "nodes" := by decide +kernel
  constructor
  · intro h
    unfold Expr.nodesSelector? at h
    split at h
    case h_1 name p s p' =>
      split at h
      case isTrue hname =>
        cases h
        refine .intro ?_ p p'
        rw [Text.sameName, beq_iff_eq, hword] at hname
        exact hname
      case isFalse => cases h
    case h_2 => cases h
  · rintro ⟨hname, p, p'⟩
    simp [Expr.nodesSelector?, Text.sameName, hname, hword]

theorem nodesSelector?_eq_none {e : Expr} : e.nodesSelector? = none ↔ ∀ s, ¬e.Selects s := by
  rw [Option.eq_none_iff_forall_ne_some]
  exact forall_congr' fun s => not_congr nodesSelector?_eq_some

@[simp] theorem conjunctsOf_none : Expr.conjunctsOf none = [] := rfl

@[simp] theorem conjunctsOf_some (e : Expr) : Expr.conjunctsOf (some e) = e.conjuncts := rfl

@[simp] theorem conjunctsOf_conjoin (p : Position) (left right : Option Expr) :
    Expr.conjunctsOf (Expr.conjoin p left right) =
      Expr.conjunctsOf left ++ Expr.conjunctsOf right := by
  cases left with
  | none => rfl
  | some left =>
    cases right with
    | none => exact (List.append_nil _).symm
    | some right => rfl

theorem conjunctsOf_eq_nil {filter : Option Expr} :
    Expr.conjunctsOf filter = [] ↔ filter = none := by
  cases filter with
  | none => exact ⟨fun _ => rfl, fun _ => rfl⟩
  | some e => exact ⟨fun h => absurd h (conjuncts_ne_nil e), nofun⟩

/-- A conjunct is taken out of a filter: it is the first one with a selector, and the rest has the others
in order. -/
structure Script.Expr.TakesOut (f : Expr) (before : List Expr) (leaf : Expr) (after : List Expr)
    (rest : Option Expr) : Prop where
  conjuncts : f.conjuncts = before ++ leaf :: after
  first : ∀ e ∈ before, ∀ s, ¬e.Selects s
  others : Expr.conjunctsOf rest = before ++ after

/-- Either no conjunct has a selector and the filter stays as it is, or the first one that has is taken
out. -/
theorem liftNodes_cases (f : Expr) :
    (f.liftNodes = (none, some f) ∧ ∀ e ∈ f.conjuncts, ∀ s, ¬e.Selects s) ∨
      ∃ selector rest before leaf after, f.liftNodes = (some selector, rest) ∧
        leaf.Selects selector ∧ f.TakesOut before leaf after rest := by
  -- By induction on the filter, as its conjuncts are listed: in both sides of an `and`, or one alone.
  fun_induction Expr.conjuncts f with
  | case1 left right p ihleft ihright =>
    rcases ihleft with ⟨hleft, hnone⟩ | ⟨s, rest, before, leaf, after, hleft, hs, hout⟩
    · rcases ihright with ⟨hright, hnone'⟩ | ⟨s, rest, before, leaf, after, hright, hs, hout⟩
      · left
        refine ⟨?_, List.forall_mem_append.mpr ⟨hnone, hnone'⟩⟩
        simp only [Expr.liftNodes, hleft, hright]
        rfl
      · right
        refine ⟨s, Expr.conjoin p (some left) rest, left.conjuncts ++ before, leaf, after, ?_, hs, ?_⟩
        · simp only [Expr.liftNodes, hleft, hright]
        · refine ⟨?_, List.forall_mem_append.mpr ⟨hnone, hout.first⟩, ?_⟩
          · rw [Expr.conjuncts, hout.conjuncts, List.append_assoc]
          · simp [hout.others]
    · right
      refine ⟨s, Expr.conjoin p rest (some right), before, leaf, after ++ right.conjuncts, ?_, hs, ?_⟩
      · simp only [Expr.liftNodes, hleft]
      · refine ⟨?_, hout.first, ?_⟩
        · rw [Expr.conjuncts, hout.conjuncts, List.append_assoc]
          rfl
        · simp [hout.others]
  | case2 e he =>
    have halone : e.conjuncts = [e] := by rw [Expr.conjuncts]; exact he
    cases hs : e.nodesSelector? with
    | none =>
      left
      refine ⟨?_, List.forall_mem_singleton.mpr (nodesSelector?_eq_none.mp hs)⟩
      rw [Expr.liftNodes, hs]
      exact he
    | some s =>
      right
      refine ⟨s, none, [], e, [], ?_, nodesSelector?_eq_some.mp hs, halone, by simp, rfl⟩
      rw [Expr.liftNodes, hs]
      exact he

-- With one conjunct taken to be true the others are what they were.
theorem conjuncts_assume {f : Expr} {index : Nat} (h : index < f.conjuncts.length) :
    (f.assume index).conjuncts = f.conjuncts.set index (.literal (.boolean true)) := by
  fun_induction Expr.assume index f with
  | case1 index left right p hlt ih =>
    rw [Expr.conjuncts, Expr.conjuncts, ih hlt, List.set_append_left _ _ hlt]
  | case2 index left right p hle ih =>
    rw [Expr.conjuncts, List.length_append] at h
    rw [Expr.conjuncts, Expr.conjuncts, ih (by omega), List.set_append_right _ _ (by omega)]
  | case3 index e he =>
    have halone : e.conjuncts = [e] := by rw [Expr.conjuncts]; exact he
    rw [halone, List.length_singleton] at h
    have hzero : index = 0 := by omega
    rw [halone, hzero]
    rfl

/-! ## 3. Conjuncts of plans -/

/-- The conjuncts of a filter of a plan, which may be missing. -/
def Operand.conjunctsOf (filter : Option Operand) : List Operand := (filter.map conjuncts).getD []

theorem conjuncts_binary {op : Operator} (hop : op ≠ .and) (left right : Operand) :
    (Operand.binary op left right).conjuncts = [.binary op left right] := by
  cases op <;> first | rfl | exact absurd rfl hop

-- What is no `and` stays none in a plan.
theorem conjuncts_of_ofExpr {scope : Scope} {e : Expr} {o : Operand}
    (he : ∀ left right p, e = .binary .and left right p → False)
    (h : Operand.ofExpr scope e = .ok o) : o.conjuncts = [o] := by
  cases e with
  | literal value | pick pick p =>
    cases h
    rfl
  | column name p =>
    simp only [Operand.ofExpr, Operand.ofName] at h
    -- A name means a column, a field or a property, by its scope.
    cases scope with
    | empty => cases h
    | json =>
      cases h
      rfl
    | buffer schema | page | image =>
      dsimp only at h
      split at h
      · cases h
        rfl
      · cases h
  | simpleCase subject branches p =>
    obtain ⟨_, _, h⟩ := Except.bind_eq_ok.mp h
    obtain ⟨_, _, h⟩ := Except.bind_eq_ok.mp h
    cases h
    rfl
  | searchedCase branches p =>
    obtain ⟨_, _, h⟩ := Except.map_eq_ok.mp h
    cases h
    rfl
  | binary op left right p =>
    obtain ⟨_, _, h⟩ := Except.bind_eq_ok.mp h
    obtain ⟨_, _, h⟩ := Except.bind_eq_ok.mp h
    cases h
    exact conjuncts_binary (fun hop => he left right p (by rw [hop])) _ _
  | not operand =>
    obtain ⟨_, _, h⟩ := Except.map_eq_ok.mp h
    cases h
    rfl

/-- The conjuncts of a filter are planned one by one, up to the first that has no meaning. -/
theorem ofExpr_conjuncts (scope : Scope) (f : Expr) :
    (Operand.ofExpr scope f).map Operand.conjuncts = f.conjuncts.mapM (Operand.ofExpr scope) := by
  fun_induction Expr.conjuncts f with
  | case1 left right p ihleft ihright =>
    rw [List.mapM_append, ← ihleft, ← ihright, Operand.ofExpr]
    cases Operand.ofExpr scope left with
    | error e => rfl
    | ok l => cases Operand.ofExpr scope right <;> rfl
  | case2 e he =>
    rw [List.mapM_cons, List.mapM_nil]
    cases ho : Operand.ofExpr scope e with
    | error error => rfl
    | ok o => exact congrArg Except.ok (conjuncts_of_ofExpr he ho)

/-- Whether an operand counts as true for a row. -/
def Operand.holds (x : Extractor) (row : Candidate) (o : Operand) : Except RunError Bool :=
  (o.eval x row).map Value.isTruthy

theorem allM_append {α ε : Type} (p : α → Except ε Bool) (l l' : List α) :
    (l ++ l').allM p = do if ← l.allM p then l'.allM p else return false := by
  induction l with
  | nil => rfl
  | cons a l ih =>
    rw [List.cons_append, List.allM, List.allM, ih]
    cases p a with
    | error e => rfl
    | ok b => cases b <;> rfl

theorem holds_eq_allM (x : Extractor) (row : Candidate) (o : Operand) :
    o.holds x row = o.conjuncts.allM (Operand.holds x row) := by
  fun_induction Operand.conjuncts o with
  | case1 left right ihleft ihright =>
    rw [allM_append, ← ihleft, ← ihright]
    simp only [Operand.holds, Operand.eval]
    cases left.eval x row with
    | error e => rfl
    | ok a =>
      show Except.map Value.isTruthy (if a.isTruthy then _ else _) = if a.isTruthy then _ else _
      cases a.isTruthy with
      | false => rfl
      | true => cases right.eval x row <;> rfl
  | case2 o _ =>
    rw [List.allM]
    cases o.holds x row with
    | error e => rfl
    | ok b => cases b <;> rfl

/-- A row is tested against the conjuncts of a filter in order, up to the first that does not hold. -/
theorem accepts_eq_allM (x : Extractor) (filter : Option Operand) (row : Candidate) :
    SelectStep.accepts x filter row = (Operand.conjunctsOf filter).allM (Operand.holds x row) := by
  cases filter with
  | none => rfl
  | some o => exact holds_eq_allM x row o

/-! ## 4. Filters without their selector -/

/-- A filter that may be missing stands for another one: it is planned with the same error if that one has
no meaning, and otherwise accepts, rejects and fails with the same error on each row. Without a filter every
row is accepted. -/
structure Script.Expr.StandsFor (scope : Scope) (rest : Option Expr) (f : Expr) : Prop where
  error : ∀ e, rest.mapM (Operand.ofExpr scope) = .error e ↔ Operand.ofExpr scope f = .error e
  accepts : ∀ o, Operand.ofExpr scope f = .ok o →
    ∃ condition, rest.mapM (Operand.ofExpr scope) = .ok condition ∧
      ∀ x row, SelectStep.accepts x condition row = SelectStep.accepts x (some o) row
  always : rest = none → ∀ o, Operand.ofExpr scope f = .ok o →
    ∀ x row, SelectStep.accepts x (some o) row = .ok true

theorem mapM_ofExpr_conjuncts (scope : Scope) (filter : Option Expr) :
    (filter.mapM (Operand.ofExpr scope)).map Operand.conjunctsOf =
      (Expr.conjunctsOf filter).mapM (Operand.ofExpr scope) := by
  cases filter with
  | none => rfl
  | some f =>
    rw [conjunctsOf_some, ← ofExpr_conjuncts, Option.mapM_some]
    cases Operand.ofExpr scope f <;> rfl

-- A conjunct that is true makes no difference to the others.
theorem allM_true (x : Extractor) (row : Candidate) (before after : List Operand) :
    (before ++ .literal (.boolean true) :: after).allM (Operand.holds x row) =
      (before ++ after).allM (Operand.holds x row) := by
  rw [allM_append, allM_append]
  rfl

-- Both filters have the same error, or plans whose conjuncts differ by the one that is true.
theorem plans_of_conjuncts {rest : Option Expr} {f : Expr} {before after : List Expr}
    (hrest : Expr.conjunctsOf rest = before ++ after)
    (hf : f.conjuncts = before ++ .literal (.boolean true) :: after) (scope : Scope) :
    (∃ e, rest.mapM (Operand.ofExpr scope) = .error e ∧ Operand.ofExpr scope f = .error e) ∨
      ∃ condition o b a, rest.mapM (Operand.ofExpr scope) = .ok condition ∧
        Operand.ofExpr scope f = .ok o ∧ Operand.conjunctsOf condition = b ++ a ∧
          o.conjuncts = b ++ .literal (.boolean true) :: a := by
  have hplanned := mapM_ofExpr_conjuncts scope rest
  have hassumed := ofExpr_conjuncts scope f
  rw [hrest, List.mapM_append] at hplanned
  rw [hf, List.mapM_append, List.mapM_cons] at hassumed
  cases hbefore : before.mapM (Operand.ofExpr scope) with
  | error e =>
    rw [hbefore] at hplanned hassumed
    exact .inl ⟨e, Except.map_eq_error.mp hplanned, Except.map_eq_error.mp hassumed⟩
  | ok b =>
    rw [hbefore] at hplanned hassumed
    cases hafter : after.mapM (Operand.ofExpr scope) with
    | error e =>
      rw [hafter] at hplanned hassumed
      exact .inl ⟨e, Except.map_eq_error.mp hplanned, Except.map_eq_error.mp hassumed⟩
    | ok a =>
      rw [hafter] at hplanned hassumed
      have ⟨condition, hcondition, hleft⟩ := Except.map_eq_ok.mp hplanned
      have ⟨o, ho, hright⟩ := Except.map_eq_ok.mp hassumed
      exact .inr ⟨condition, o, b, a, hcondition, ho, hleft, hright⟩

theorem standsFor_of_conjuncts {rest : Option Expr} {f : Expr} {before after : List Expr}
    (hrest : Expr.conjunctsOf rest = before ++ after)
    (hf : f.conjuncts = before ++ .literal (.boolean true) :: after) (scope : Scope) :
    Expr.StandsFor scope rest f := by
  rcases plans_of_conjuncts hrest hf scope with
    ⟨e, hplan, hplan'⟩ | ⟨condition, o, b, a, hplan, hplan', hcondition, ho⟩
  · have hnone : ∀ o, Operand.ofExpr scope f ≠ .ok o := by simp [hplan']
    have herror : ∀ e', rest.mapM (Operand.ofExpr scope) = .error e' ↔
        Operand.ofExpr scope f = .error e' := by simp [hplan, hplan']
    exact ⟨herror, fun o ho => absurd ho (hnone o), fun _ o ho => absurd ho (hnone o)⟩
  · have haccepts (x : Extractor) (row : Candidate) :
        SelectStep.accepts x condition row = SelectStep.accepts x (some o) row := by
      rw [accepts_eq_allM, accepts_eq_allM, hcondition]
      show _ = o.conjuncts.allM _
      rw [ho, allM_true]
    have honly : ∀ o', Operand.ofExpr scope f = .ok o' → o = o' := by simp [hplan']
    refine ⟨by simp [hplan, hplan'], fun o' ho' => ?_, fun hmissing o' ho' x row => ?_⟩
    · rw [← honly o' ho']
      exact ⟨condition, hplan, haccepts⟩
    · have hnil : condition = none := by
        rw [hmissing] at hplan
        cases hplan
        rfl
      rw [← honly o' ho', ← haccepts, hnil]
      rfl

namespace Script.Expr.TakesOut

variable {f leaf : Expr} {before after : List Expr} {rest : Option Expr}

-- Nothing is left exactly if there was nothing else.
theorem rest_eq_none_iff (h : f.TakesOut before leaf after rest) :
    rest = none ↔ f.conjuncts = [leaf] := by
  rw [← conjunctsOf_eq_nil, h.others, h.conjuncts]
  constructor
  · intro hnil
    have ⟨hbefore, hafter⟩ := List.append_eq_nil_iff.mp hnil
    rw [hbefore, hafter]
    rfl
  · intro halone
    have hlength := congrArg List.length halone
    simp only [List.length_append, List.length_cons, List.length_nil] at hlength
    apply List.eq_nil_of_length_eq_zero
    rw [List.length_append]
    omega

theorem conjuncts_assume (h : f.TakesOut before leaf after rest) :
    (f.assume before.length).conjuncts = before ++ .literal (.boolean true) :: after := by
  have hindex : before.length < f.conjuncts.length := by
    rw [h.conjuncts, List.length_append, List.length_cons]
    omega
  rw [Quarry.conjuncts_assume hindex, h.conjuncts, List.set_append_right _ _ (Nat.le_refl _),
    Nat.sub_self]
  rfl

end Script.Expr.TakesOut

/-- Taking the selector of the rows out of a filter keeps its other conjuncts, in order, and what they
accept: rows are tested as if the conjunct with the selector were true. -/
theorem liftNodes_keeps_conjuncts (f : Expr) :
    (f.liftNodes = (none, some f) ∧ ∀ e ∈ f.conjuncts, ∀ s, ¬e.Selects s) ∨
      ∃ selector rest before leaf after, f.liftNodes = (some selector, rest) ∧
        leaf.Selects selector ∧ f.TakesOut before leaf after rest ∧
          (rest = none ↔ f.conjuncts = [leaf]) ∧
            ∀ scope, Expr.StandsFor scope rest (f.assume before.length) := by
  rcases liftNodes_cases f with hnone | ⟨s, rest, before, leaf, after, hlift, hs, hout⟩
  · exact .inl hnone
  · right
    refine ⟨s, rest, before, leaf, after, hlift, hs, hout, hout.rest_eq_none_iff, fun scope => ?_⟩
    exact standsFor_of_conjuncts hout.others hout.conjuncts_assume scope

end Quarry
