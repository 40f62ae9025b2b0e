import Quarry.Proofs.Plan.Refusals
import Quarry.Proofs.Script.Faults
import Quarry.Proofs.Script.Origins

/-!
# Where errors point

A script that has no plan has an error at one of its tokens, or where it has none. The token is what the
error is about. If the operands of an operator do not go together, it is this very operator.
-/

namespace Quarry

open Script

/-! ## 1. Definitions -/

/-- The tokens at which a fault can be found. -/
inductive CompileFault.PointsAt : CompileFault → Token → Prop where
  | unknownSource {name : String} : PointsAt (.unknownBuffer name) (.identifier name)
  | unknownTarget {name : String} : PointsAt (.unknownBuffer name) .insert
  | duplicateBuffer {name : String} : PointsAt (.duplicateBuffer name) .create
  | unknownIdentifier {name : String} : PointsAt (.unknownIdentifier name) (.identifier name)
  | unknownType {column typeName : String} : PointsAt (.unknownType column typeName) (.identifier column)
  | multipleIdentity {buffer column : String} : PointsAt (.multipleIdentity buffer) (.identifier column)
  | identityType {column : String} {found : ValueType} :
      PointsAt (.typeMismatch s!"identity column '{column}'" .integer found) (.identifier column)
  | identityInsert {buffer column : String} : PointsAt (.identityInsert buffer column) .insert
  | duplicateColumn {buffer column : String} : PointsAt (.duplicateColumn buffer column) .insert
  | unknownColumn {buffer column : String} : PointsAt (.unknownColumn buffer column) .insert
  | columnCount {buffer : String} {expected found : Nat} :
      PointsAt (.columnCount buffer expected found) .insert
  | columnType {buffer column : String} {expected found : ValueType} :
      PointsAt (.typeMismatch s!"column '{column}' of buffer '{buffer}'" expected found) .insert
  | operator {op : Operator} {left right : ValueType} :
      PointsAt (.typeMismatch s!"operator '{op.symbol}'" left right) (.ofOperator op)
  | branches {sofar found : ValueType} : PointsAt (.typeMismatch "case branches" sofar found) .case
  | pickWithoutDocument : PointsAt .pickWithoutDocument .pick
  | starWithoutSource : PointsAt .starWithoutSource .star
  | invalidThreadHint {count : Int64} {word : Token} (hword : word.isWord "thread") :
      PointsAt (.invalidThreadHint count) word
  | wireColumnCount {found : Nat} : PointsAt (.wireColumnCount found) .select

/-- The operator at a place of a script does not take operands of the types that it has. It belongs to an
expression of a select, where the buffers of the statements in front are declared. -/
inductive OperatorRefused (source : String) (op : Operator) (l r : ValueType) (position : Position) :
    Prop where
  | intro {ls : List Lexeme} {before behind : Program Unit} {st : Statement Unit} {q : Select Unit}
      {scope : Scope} {e left right : Expr} (hlexemes : HasLexemes source ls)
      (hparse : parseProgram source = .ok (before ++ st :: behind)) (hq : q ∈ st.selects)
      (hscope : Scope.ofSource (before.foldl Statement.declare []) q.source = .ok scope)
      (he : e ∈ q.expressions) (hpart : .binary op left right position ∈ e.parts)
      (hleft : left.infer scope = .ok l) (hright : right.infer scope = .ok r)
      (hrefused : op.type? l r = none) (hstands : StandsAt ls op left right position) :
      OperatorRefused source op l r position

/-- The error is at a token of the script that it is about, or where no token can be read. -/
inductive ScriptError.PointsInto (source : String) : ScriptError → Prop where
  | lexical {e : LexError} {ts : List Lexeme} (hscan : scan source = (Scan.fault e).prepend ts)
      (he : e.StartsIn source.toList) : PointsInto source (.syntactic ⟨e.position, .lexical e.fault⟩)
  | syntactic {l : Lexeme} {fault : SyntaxFault} (hl : l ∈ (scan source).lexemes)
      (hstarts : l.StartsIn source.toList) (hfault : fault.PointsAt l.token) :
      PointsInto source (.syntactic ⟨l.position, fault⟩)
  | semantic {l : Lexeme} {fault : CompileFault} (hl : l ∈ (scan source).lexemes)
      (hstarts : l.StartsIn source.toList) (hfault : fault.PointsAt l.token)
      (hoperator : ∀ op left right, fault = .typeMismatch s!"operator '{op.symbol}'" left right →
        OperatorRefused source op left right l.position) : PointsInto source (.semantic ⟨l.position, fault⟩)

/-! ## 2. Tokens -/

variable {ls : List Lexeme} {scope : Scope} {catalog : Catalog} {error : CompileError}

/-- The error is at one of the lexemes, which it is about. -/
def CompileError.PointsIn (ls : List Lexeme) (error : CompileError) : Prop :=
  ∃ t, ⟨t, error.position⟩ ∈ ls ∧ error.fault.PointsAt t

theorem Script.StandsAt.mem {op : Operator} {left right : Expr} {position : Position}
    (h : StandsAt ls op left right position) : ⟨.ofOperator op, position⟩ ∈ ls := by
  cases h with
  | between hl _ _ hwithin => exact Lexeme.mem_of_token hl (hwithin.subset (by simp))
  | sign hl _ hwithin => exact Lexeme.mem_of_token hl (hwithin.subset (by simp))

theorem Script.Expr.Refused.pointsIn {x : Expr} (h : x.Refused scope error) (hx : x.StandsIn ls) :
    error.PointsIn ls := by
  cases h with
  | column _ => exact ⟨_, hx, .unknownIdentifier⟩
  | simpleCase _ _ _ | searchedCase _ _ _ => exact ⟨_, hx, .branches⟩
  | binary _ _ _ => exact ⟨_, StandsAt.mem hx, .operator⟩

theorem Script.Select.Refused.pointsIn {q : Select Unit} (h : q.Refused catalog error) (hq : q.StandsIn ls) :
    error.PointsIn ls := by
  cases h with
  | buffer hsource _ => exact ⟨_, hq.buffer _ _ hsource, .unknownSource⟩
  | urls hsource _ _ => exact ⟨_, hq.urls _ _ _ _ hsource, .wireColumnCount⟩
  | thread hhint _ =>
    obtain ⟨word, hmem, hword⟩ := hq.thread _ _ hhint
    exact ⟨word, hmem, .invalidThreadHint hword⟩
  | pick _ _ he hpick => exact ⟨_, hq.expressions _ he _ hpick, .pickWithoutDocument⟩
  | star _ _ hstar => exact ⟨_, hq.star _ hstar, .starWithoutSource⟩
  | expression _ he hx h => exact h.pointsIn (hq.expressions _ he _ hx)

theorem Script.Statement.StandsIn.selects {st : Statement Unit} (h : st.StandsIn ls) :
    ∀ q ∈ st.selects, q.StandsIn ls := by
  cases st with
  | createBuffer _ _ _ => nofun
  | insert _ _ query _ => exact h.2
  | select query => exact h

theorem Script.Statement.Refused.pointsIn {st : Statement Unit} (h : st.Refused catalog error)
    (hst : st.StandsIn ls) : error.PointsIn ls := by
  cases h with
  | duplicateBuffer _ => exact ⟨_, hst.1, .duplicateBuffer⟩
  | unknownType hd _ => exact ⟨_, hst.2 _ hd, .unknownType⟩
  | multipleIdentity _ _ _ => exact ⟨_, hst.2 _ (by simp), .multipleIdentity⟩
  | identityType hd _ _ => exact ⟨_, hst.2 _ hd, .identityType⟩
  | unknownTarget _ => exact ⟨_, hst.1, .unknownTarget⟩
  | unknownColumn _ _ _ => exact ⟨_, hst.1, .unknownColumn⟩
  | identityInsert _ _ _ _ _ => exact ⟨_, hst.1, .identityInsert⟩
  | duplicateColumn _ _ _ _ => exact ⟨_, hst.1, .duplicateColumn⟩
  | columnCount _ _ _ _ => exact ⟨_, hst.1, .columnCount⟩
  | columnType _ _ _ _ _ _ => exact ⟨_, hst.1, .columnType⟩
  | select hq h => exact h.pointsIn (hst.selects _ hq)

/-! ## 3. Operators -/

theorem symbol_injective : Function.Injective Operator.symbol := by
  intro a b h
  cases a <;> cases b <;> first | rfl | exact absurd h (by decide)

-- The messages of operators start like no others.
theorem ne_operator {text symbol : String} {c : Char} (h : text.toList.head? = some c) (hc : c ≠ 'o') :
    text ≠ s!"operator '{symbol}'" := by
  have hoperator : (s!"operator '{symbol}'").toList.head? = some 'o' := by
    simp [toString, String.toList_append]
  rintro rfl
  exact hc (Option.some.inj (h.symm.trans hoperator))

theorem identity_ne_operator (column symbol : String) :
    s!"identity column '{column}'" ≠ s!"operator '{symbol}'" := by
  refine ne_operator (c := 'i') ?_ (by decide)
  simp [toString, String.toList_append]

theorem column_ne_operator (column buffer symbol : String) :
    s!"column '{column}' of buffer '{buffer}'" ≠ s!"operator '{symbol}'" := by
  refine ne_operator (c := 'c') ?_ (by decide)
  simp [toString, String.toList_append]

theorem branches_ne_operator (symbol : String) : "case branches" ≠ s!"operator '{symbol}'" :=
  ne_operator (c := 'c') rfl (by decide)

theorem operator_injective {op other : Operator}
    (h : s!"operator '{op.symbol}'" = s!"operator '{other.symbol}'") : op = other :=
  symbol_injective ((String.append_right_inj _).mp ((String.append_left_inj _).mp h))

/-- What is refused for an operator is an operation, with operands that have types. -/
theorem Script.Expr.Refused.operator {x : Expr} (h : x.Refused scope error) {op : Operator}
    {l r : ValueType} (hfault : error.fault = .typeMismatch s!"operator '{op.symbol}'" l r) :
    ∃ left right, x = .binary op left right error.position ∧ left.infer scope = .ok l ∧
      right.infer scope = .ok r ∧ op.type? l r = none := by
  cases h with
  | column _ => cases hfault
  | simpleCase _ _ _ | searchedCase _ _ _ =>
    exact absurd (CompileFault.typeMismatch.inj hfault).1 (branches_ne_operator _)
  | @binary op' left right _ l' r' hleft hright h =>
    obtain ⟨hcontext, rfl, rfl⟩ := CompileFault.typeMismatch.inj hfault
    obtain rfl := operator_injective hcontext
    exact ⟨left, right, rfl, hleft, hright, h⟩

-- So is a select, for an expression of its own.
theorem Script.Select.Refused.operator {q : Select Unit} (h : q.Refused catalog error) {op : Operator}
    {l r : ValueType} (hfault : error.fault = .typeMismatch s!"operator '{op.symbol}'" l r) :
    ∃ scope e x, Scope.ofSource catalog q.source = .ok scope ∧ e ∈ q.expressions ∧ x ∈ e.parts ∧
      x.Refused scope error := by
  cases h with
  | expression hscope he hx h => exact ⟨_, _, _, hscope, he, hx, h⟩
  | _ => cases hfault

-- So is a statement, for one of its selects.
theorem Script.Statement.Refused.operator {st : Statement Unit} (h : st.Refused catalog error)
    {op : Operator} {l r : ValueType}
    (hfault : error.fault = .typeMismatch s!"operator '{op.symbol}'" l r) :
    ∃ q ∈ st.selects, q.Refused catalog error := by
  cases h with
  | select hq h => exact ⟨_, hq, h⟩
  | identityType _ _ _ => exact absurd (CompileFault.typeMismatch.inj hfault).1 (identity_ne_operator _ _)
  | columnType _ _ _ _ _ _ => exact absurd (CompileFault.typeMismatch.inj hfault).1 (column_ne_operator _ _ _)
  | _ => cases hfault

/-! ## 4. Scripts -/

variable {source : String}

-- An error in reading is at what some lexemes leave.
theorem Script.SyntaxError.Within.pointsInto {e : SyntaxError} (h : e.Within (scan source)) :
    ScriptError.PointsInto source (.syntactic e) := by
  obtain ⟨s, ts, hscan, he⟩ := h
  cases he with
  | lexical => exact .lexical hscan (startsIn_of_scan hscan)
  | token hs hfault =>
    have hmem : ⟨s.token, s.position⟩ ∈ (scan source).lexemes := by
      rw [hscan, Scan.lexemes_prepend]
      exact List.mem_append_right _ hs.first_mem_lexemes
    exact .syntactic hmem (startsIn_of_mem_lexemes hmem) hfault

-- An error of analysis is at what a statement was read from.
theorem pointsInto_of_settle {program : Program Unit} (hparse : parseProgram source = .ok program)
    (h : settle program = .error error) : ScriptError.PointsInto source (.semantic error) := by
  obtain ⟨ts, hlexemes, hspelled⟩ := parseProgram_eq_ok_iff.mp hparse
  obtain ⟨before, st, behind, rfl, hrefused⟩ := refused_of_settleFrom h
  have hst : st.StandsIn ts := hspelled.standsIn st (by simp)
  obtain ⟨t, hmem, hfault⟩ := hrefused.pointsIn hst
  have hmem : ⟨t, error.position⟩ ∈ (scan source).lexemes := by
    obtain ⟨stop, hscan⟩ := hlexemes
    rw [hscan, Scan.lexemes_prepend]
    exact List.mem_append_left _ hmem
  refine .semantic hmem (startsIn_of_mem_lexemes hmem) hfault fun op l r hoperator => ?_
  obtain ⟨q, hq, hrefused⟩ := hrefused.operator hoperator
  obtain ⟨scope, e, x, hscope, he, hx, hrefused⟩ := hrefused.operator hoperator
  obtain ⟨left, right, rfl, hleft, hright, hnone⟩ := hrefused.operator hoperator
  exact .intro hlexemes hparse hq hscope he hx hleft hright hnone ((hst.selects q hq).expressions e he _ hx)

/-- Each error of a script points into the script. -/
theorem pointsInto_of_compile {source : String} {e : ScriptError} (h : compile source = .error e) :
    e.PointsInto source := by
  rcases Except.bind_eq_error.mp h with h | ⟨settled, hcheck, h⟩
  · rcases Except.bind_eq_error.mp h with h | ⟨program, hparse, h⟩
    · obtain ⟨e, hparse, rfl⟩ := Except.mapError_eq_error.mp h
      exact (within_of_parseProgram hparse).pointsInto
    · obtain ⟨e, hsettle, rfl⟩ := Except.mapError_eq_error.mp h
      exact pointsInto_of_settle (Except.mapError_eq_ok.mp hparse) hsettle
  · -- What was settled has a plan.
    obtain ⟨program, _, hsettle⟩ := Except.bind_eq_ok.mp hcheck
    obtain ⟨plan, hplan, _⟩ := generate_of_settle (Except.mapError_eq_ok.mp hsettle)
    rw [hplan] at h
    cases h

/-- Two signs in a case of a url query. The inner one is in front of a column of booleans. -/
theorem pointsInto_of_compile_signs :
    let source := "create buffer b (n int, t text, f bool);\nselect url from download page (\n" ++
      "  select case when n > 1 then t else t + (n * - -f) end from b where not f)"
    let e : ScriptError := .semantic ⟨⟨3, 49⟩, .typeMismatch "operator '-'" .integer .boolean⟩
    compile source = .error e ∧ e.PointsInto source := by
  intro source e
  have hcompile : compile source = .error e := by decide +kernel
  exact ⟨hcompile, pointsInto_of_compile hcompile⟩

end Quarry
