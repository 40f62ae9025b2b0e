import Quarry.Proofs.Plan.Explicit
import Quarry.Proofs.Run.Conjuncts
import Quarry.Proofs.Script.Shape

/-!
# Refused scripts

Which part of a script analysis refuses, and why. The place of the error is that of this part, however deep
it is nested and whatever the analysis of a filter has taken out around it.
-/

namespace Quarry

open Script

/-! ## 1. Definitions -/

/-- The scope refuses the expression for itself, not for its parts. -/
inductive Script.Expr.Refused (scope : Scope) : Expr → CompileError → Prop where
  | column {name : String} {position : Position} (h : scope.columnType? name = none) :
      Refused scope (.column name position) ⟨position, .unknownIdentifier name⟩
  | simpleCase {subject result : Expr} {b : Branches} {position : Position} {sofar found : ValueType}
      (hresult : result ∈ b.results) (hfound : result.infer scope = .ok found)
      (h : sofar.unify? found = none) :
      Refused scope (.simpleCase subject b position) ⟨position, .typeMismatch "case branches" sofar found⟩
  | searchedCase {result : Expr} {b : Branches} {position : Position} {sofar found : ValueType}
      (hresult : result ∈ b.results) (hfound : result.infer scope = .ok found)
      (h : sofar.unify? found = none) :
      Refused scope (.searchedCase b position) ⟨position, .typeMismatch "case branches" sofar found⟩
  | binary {op : Operator} {left right : Expr} {position : Position} {l r : ValueType}
      (hleft : left.infer scope = .ok l) (hright : right.infer scope = .ok r) (h : op.type? l r = none) :
      Refused scope (.binary op left right position)
        ⟨position, .typeMismatch s!"operator '{op.symbol}'" l r⟩

/-- The select is refused, not for its url query, where the buffers of the catalog are declared. -/
inductive Script.Select.Refused (catalog : Catalog) (q : Select Unit) : CompileError → Prop where
  | buffer {name : String} {position : Position} (hsource : q.source = .buffer name position)
      (h : catalog.find? name = none) : Refused catalog q ⟨position, .unknownBuffer name⟩
  | urls {kind : DownloadKind} {urls : Select Unit} {hints : List Hint} {position : Position}
      {settled : Select Settled} (hsource : q.source = .downloadEach kind urls hints position)
      (hsettled : urls.settle catalog = .ok settled) (h : settled.note.columns.length ≠ 1) :
      Refused catalog q ⟨urls.position, .wireColumnCount settled.note.columns.length⟩
  | thread {count : Int64} {position : Position}
      (hhint : .thread count position ∈ downloadHints q.source ++ q.hints) (h : count.toInt < 1) :
      Refused catalog q ⟨position, .invalidThreadHint count⟩
  | pick {scope : Scope} {e : Expr} {pick : Pick} {position : Position}
      (hscope : Scope.ofSource catalog q.source = .ok scope) (h : scope ≠ .page) (he : e ∈ q.expressions)
      (hpick : .pick pick position ∈ e.parts) : Refused catalog q ⟨position, .pickWithoutDocument⟩
  | star {scope : Scope} {position : Position} (hscope : Scope.ofSource catalog q.source = .ok scope)
      (h : scope = .empty ∨ scope = .json) (hstar : .star position ∈ q.projections) :
      Refused catalog q ⟨position, .starWithoutSource⟩
  | expression {scope : Scope} {e x : Expr} {error : CompileError}
      (hscope : Scope.ofSource catalog q.source = .ok scope) (he : e ∈ q.expressions) (hx : x ∈ e.parts)
      (h : x.Refused scope error) : Refused catalog q error

/-- The statement is refused where the buffers of the catalog are declared. -/
inductive Script.Statement.Refused (catalog : Catalog) : Statement Unit → CompileError → Prop where
  | duplicateBuffer {name : String} {columns : List ColumnDecl} {position : Position}
      (h : (catalog.find? name).isSome) :
      Refused catalog (.createBuffer name columns position) ⟨position, .duplicateBuffer name⟩
  | unknownType {name : String} {columns : List ColumnDecl} {position : Position} {d : ColumnDecl}
      (hd : d ∈ columns) (h : ValueType.ofName? d.typeName = none) :
      Refused catalog (.createBuffer name columns position) ⟨d.position, .unknownType d.name d.typeName⟩
  | multipleIdentity {name : String} {before behind : List ColumnDecl} {position : Position}
      {d other : ColumnDecl} (hother : other ∈ before) (hidentity : other.identity = true)
      (h : d.identity = true) : Refused catalog (.createBuffer name (before ++ d :: behind) position)
        ⟨d.position, .multipleIdentity name⟩
  | identityType {name : String} {columns : List ColumnDecl} {position : Position} {d : ColumnDecl}
      {type : ValueType} (hd : d ∈ columns) (htype : ValueType.ofName? d.typeName = some type)
      (h : type ≠ .integer) : Refused catalog (.createBuffer name columns position)
        ⟨d.position, .typeMismatch s!"identity column '{d.name}'" .integer type⟩
  | unknownTarget {target : String} {columns : Option (List String)} {query : Select Unit}
      {position : Position} (h : catalog.find? target = none) :
      Refused catalog (.insert target columns query position) ⟨position, .unknownBuffer target⟩
  | unknownColumn {target name : String} {names : List String} {query : Select Unit} {position : Position}
      {schema : Schema} (hschema : catalog.find? target = some schema) (hname : name ∈ names)
      (h : schema.position? name = none) :
      Refused catalog (.insert target (some names) query position) ⟨position, .unknownColumn target name⟩
  | identityInsert {target name : String} {names : List String} {query : Select Unit} {position : Position}
      {schema : Schema} {index : Nat} {column : BufferColumn} (hschema : catalog.find? target = some schema)
      (hname : name ∈ names) (hindex : schema.position? name = some index)
      (hcolumn : schema.columns[index]? = some column) (h : column.identity = true) :
      Refused catalog (.insert target (some names) query position) ⟨position, .identityInsert target name⟩
  | duplicateColumn {target name other : String} {before behind : List String} {query : Select Unit}
      {position : Position} {schema : Schema} {index : Nat} (hschema : catalog.find? target = some schema)
      (hother : other ∈ before) (hindex : schema.position? other = some index)
      (h : schema.position? name = some index) :
      Refused catalog (.insert target (some (before ++ name :: behind)) query position)
        ⟨position, .duplicateColumn target name⟩
  | columnCount {target : String} {columns : Option (List String)} {query : Select Unit}
      {position : Position} {schema : Schema} {settled : Select Settled} {targets : List Nat}
      (hschema : catalog.find? target = some schema) (hquery : query.settle catalog = .ok settled)
      (htargets : insertTargets target schema columns position = .ok targets)
      (h : targets.length ≠ settled.note.columns.length) :
      Refused catalog (.insert target columns query position)
        ⟨position, .columnCount target targets.length settled.note.columns.length⟩
  | columnType {target : String} {columns : Option (List String)} {query : Select Unit}
      {position : Position} {schema : Schema} {settled : Select Settled} {targets : List Nat} {index : Nat}
      {column : BufferColumn} {produced : Column} (hschema : catalog.find? target = some schema)
      (hquery : query.settle catalog = .ok settled)
      (htargets : insertTargets target schema columns position = .ok targets)
      (hpair : (index, produced) ∈ targets.zip settled.note.columns)
      (hcolumn : schema.columns[index]? = some column) (h : column.type.accepts produced.type = false) :
      Refused catalog (.insert target columns query position)
        ⟨position, .typeMismatch s!"column '{column.name}' of buffer '{target}'" column.type produced.type⟩
  | select {st : Statement Unit} {q : Select Unit} {error : CompileError} (hq : q ∈ st.selects)
      (h : q.Refused catalog error) : Refused catalog st error

/-! ## 2. Expressions -/

variable {scope : Scope} {catalog : Catalog} {error : CompileError}

theorem joinBranch_eq_error {position : Position} {sofar found : ValueType}
    (h : joinBranch position sofar found = .error error) :
    sofar.unify? found = none ∧ error = ⟨position, .typeMismatch "case branches" sofar found⟩ := by
  unfold joinBranch at h
  split at h
  · cases h
  case h_2 hnone =>
    cases h
    exact ⟨hnone, rfl⟩

mutual

/-- What has no type has a part that is refused. -/
theorem Script.Expr.refused_of_infer : (e : Expr) → ∀ {error}, e.infer scope = .error error →
    ∃ x ∈ e.parts, x.Refused scope error
  | .literal _, _, h => nomatch h
  | .pick _ _, _, h => nomatch h
  | .column name position, error, h => by
    rw [Expr.infer] at h
    split at h
    · cases h
    case h_2 hnone =>
      cases h
      exact ⟨_, List.mem_cons_self, .column hnone⟩
  | .simpleCase subject b position, error, h => by
    rcases Except.bind_eq_error.mp h with h | ⟨_, _, h⟩
    · obtain ⟨x, hx, hrefused⟩ := subject.refused_of_infer h
      exact ⟨x, List.mem_cons_of_mem _ (List.mem_append_left _ hx), hrefused⟩
    · rcases b.refused_of_infer h with ⟨x, hx, hrefused⟩ | ⟨r, hr, sofar, found, hfound, hunify, rfl⟩
      · exact ⟨x, List.mem_cons_of_mem _ (List.mem_append_right _ hx), hrefused⟩
      · exact ⟨_, List.mem_cons_self, .simpleCase hr hfound hunify⟩
  | .searchedCase b position, error, h => by
    rcases b.refused_of_infer h with ⟨x, hx, hrefused⟩ | ⟨r, hr, sofar, found, hfound, hunify, rfl⟩
    · exact ⟨x, List.mem_cons_of_mem _ hx, hrefused⟩
    · exact ⟨_, List.mem_cons_self, .searchedCase hr hfound hunify⟩
  | .binary op left right position, error, h => by
    rcases Except.bind_eq_error.mp h with h | ⟨l, hl, h⟩
    · obtain ⟨x, hx, hrefused⟩ := left.refused_of_infer h
      exact ⟨x, List.mem_cons_of_mem _ (List.mem_append_left _ hx), hrefused⟩
    rcases Except.bind_eq_error.mp h with h | ⟨r, hr, h⟩
    · obtain ⟨x, hx, hrefused⟩ := right.refused_of_infer h
      exact ⟨x, List.mem_cons_of_mem _ (List.mem_append_right _ hx), hrefused⟩
    split at h
    · cases h
    case h_2 hnone =>
      cases h
      exact ⟨_, List.mem_cons_self, .binary hl hr hnone⟩
  | .not operand, error, h => by
    rcases Except.bind_eq_error.mp h with h | ⟨_, _, h⟩
    · obtain ⟨x, hx, hrefused⟩ := operand.refused_of_infer h
      exact ⟨x, List.mem_cons_of_mem _ hx, hrefused⟩
    · cases h

-- The branches of a case have a part that is refused, or a result that does not go with those before it.
theorem Script.Branches.refused_of_infer : (b : Branches) → ∀ {position sofar error},
    b.infer scope position sofar = .error error → (∃ x ∈ b.parts, x.Refused scope error) ∨
      ∃ result ∈ b.results, ∃ sofar found, result.infer scope = .ok found ∧ sofar.unify? found = none ∧
        error = ⟨position, .typeMismatch "case branches" sofar found⟩
  | .done, _, _, _, h => nomatch h
  | .otherwise result, position, sofar, error, h => by
    rcases Except.bind_eq_error.mp h with h | ⟨found, hfound, h⟩
    · exact .inl (result.refused_of_infer h)
    · exact .inr ⟨result, List.mem_cons_self, sofar, found, hfound, joinBranch_eq_error h⟩
  | .branch condition result rest, position, sofar, error, h => by
    rcases Except.bind_eq_error.mp h with h | ⟨_, _, h⟩
    · obtain ⟨x, hx, hrefused⟩ := condition.refused_of_infer h
      exact .inl ⟨x, List.mem_append_left _ (List.mem_append_left _ hx), hrefused⟩
    rcases Except.bind_eq_error.mp h with h | ⟨found, hfound, h⟩
    · obtain ⟨x, hx, hrefused⟩ := result.refused_of_infer h
      exact .inl ⟨x, List.mem_append_left _ (List.mem_append_right _ hx), hrefused⟩
    rcases Except.bind_eq_error.mp h with h | ⟨joined, _, h⟩
    · exact .inr ⟨result, List.mem_cons_self, sofar, found, hfound, joinBranch_eq_error h⟩
    · rcases rest.refused_of_infer h with ⟨x, hx, hrefused⟩ | ⟨r, hr, hmismatch⟩
      · exact .inl ⟨x, List.mem_append_right _ hx, hrefused⟩
      · exact .inr ⟨r, List.mem_cons_of_mem _ hr, hmismatch⟩

end

/-! ## 3. Filters -/

-- The parts of conjuncts are parts of the filter.
theorem parts_of_mem_conjuncts {f c : Expr} (hc : c ∈ f.conjuncts) : ∀ x ∈ c.parts, x ∈ f.parts := by
  fun_induction Expr.conjuncts f with
  | case1 left right position ihleft ihright =>
    intro x hx
    refine List.mem_cons_of_mem _ (List.mem_append.mpr ?_)
    rcases List.mem_append.mp hc with hc | hc
    · exact .inl (ihleft hc x hx)
    · exact .inr (ihright hc x hx)
  | case2 e _ =>
    obtain rfl := List.mem_singleton.mp hc
    exact fun x hx => hx

-- The parts of a filter are parts of conjuncts, but for the operators between these.
theorem mem_parts_cases {f x : Expr} (hx : x ∈ f.parts) :
    (∃ left right position, x = .binary .and left right position) ∨ ∃ c ∈ f.conjuncts, x ∈ c.parts := by
  fun_induction Expr.conjuncts f with
  | case1 left right position ihleft ihright =>
    rcases List.mem_cons.mp hx with rfl | hx
    · exact .inl ⟨left, right, position, rfl⟩
    rcases List.mem_append.mp hx with hx | hx
    · rcases ihleft hx with hand | ⟨c, hc, hx⟩
      · exact .inl hand
      · exact .inr ⟨c, List.mem_append_left _ hc, hx⟩
    · rcases ihright hx with hand | ⟨c, hc, hx⟩
      · exact .inl hand
      · exact .inr ⟨c, List.mem_append_right _ hc, hx⟩
  | case2 e _ => exact .inr ⟨e, List.mem_singleton_self e, hx⟩

/-- What is left of a filter without its selector has parts of the filter, joined anew. -/
theorem parts_of_splitFilter {filter : Option Expr} {nodes : Option String} {rest x : Expr}
    (h : splitFilter scope filter = (nodes, some rest)) (hx : x ∈ rest.parts) :
    (∃ left right position, x = .binary .and left right position) ∨
      ∃ f, filter = some f ∧ x ∈ f.parts := by
  have hsame : filter = some rest → ∃ f, filter = some f ∧ x ∈ f.parts := fun h => ⟨rest, h, hx⟩
  unfold splitFilter at h
  split at h
  case h_2 => exact .inr (hsame (Prod.mk.inj h).2)
  case h_1 f =>
    rcases liftNodes_cases f with ⟨hlift, _⟩ | ⟨selector, rest', before, leaf, after, hlift, _, hout⟩
    · rw [hlift] at h
      exact .inr (hsame (Prod.mk.inj h).2)
    · obtain ⟨_, rfl⟩ := Prod.mk.inj (hlift.symm.trans h)
      refine (mem_parts_cases hx).imp_right fun ⟨c, hc, hxc⟩ => ⟨f, rfl, ?_⟩
      have hothers : rest.conjuncts = before ++ after := hout.others
      rw [hothers] at hc
      have hconjunct : c ∈ f.conjuncts := by
        rw [hout.conjuncts]
        rcases List.mem_append.mp hc with hc | hc
        · exact List.mem_append_left _ hc
        · exact List.mem_append_right _ (List.mem_cons_of_mem _ hc)
      exact parts_of_mem_conjuncts hconjunct x hxc

-- An `and` takes whatever its operands are.
theorem Script.Expr.Refused.ne_and {x : Expr} (h : x.Refused scope error) (left right : Expr)
    (position : Position) : x ≠ .binary .and left right position := by
  rintro rfl
  cases h with
  | binary _ _ h => cases h

/-! ## 4. Selects -/

theorem thread_of_settleHints {hints : List Hint} (h : settleHints hints = .error error) :
    ∃ count position, .thread count position ∈ hints ∧ count.toInt < 1 ∧
      error = ⟨position, .invalidThreadHint count⟩ := by
  induction hints with
  | nil => cases h
  | cons hint hints ih =>
    -- The hint in front is no number of threads, or the rest is refused.
    have hrest (h : settleHints hints = .error error) : ∃ count position,
        .thread count position ∈ hint :: hints ∧ count.toInt < 1 ∧
          error = ⟨position, .invalidThreadHint count⟩ := by
      obtain ⟨count, position, hmem, hcount⟩ := ih h
      exact ⟨count, position, List.mem_cons_of_mem _ hmem, hcount⟩
    cases hint with
    | js =>
      rcases Except.bind_eq_error.mp h with h | ⟨_, _, h⟩
      · exact hrest h
      · cases h
    | thread count position =>
      rw [settleHints] at h
      split at h
      case isTrue hcount =>
        cases h
        exact ⟨count, position, List.mem_cons_self, hcount, rfl⟩
      case isFalse =>
        rcases Except.bind_eq_error.mp h with h | ⟨_, _, h⟩
        · exact hrest h
        · cases h

-- A projection that has no columns is a star without a source, or an expression that is refused.
theorem refused_of_selectColumns {q : Select Unit} (hscope : Scope.ofSource catalog q.source = .ok scope)
    (h : selectColumns scope q.projections = .error error) : q.Refused catalog error := by
  rcases Except.bind_eq_error.mp h with h | ⟨_, _, h⟩
  · obtain ⟨p, hp, h⟩ := Except.exists_of_mapM_eq_error h
    cases p with
    | star position =>
      cases scope with
      | empty =>
        cases h
        exact .star hscope (.inl rfl) hp
      | json =>
        cases h
        exact .star hscope (.inr rfl) hp
      | buffer schema | page | image => cases h
    | item e label =>
      rcases Except.bind_eq_error.mp h with h | ⟨_, _, h⟩
      · obtain ⟨x, hx, hrefused⟩ := e.refused_of_infer h
        exact .expression hscope (List.mem_append_left _ (List.mem_filterMap.mpr ⟨_, hp, rfl⟩)) hx hrefused
      · cases h
  · cases h

-- A filter of a page is checked without its selector, and any other one as it is.
theorem splitFilter_of_ne_page (h : scope ≠ .page) (filter : Option Expr) :
    splitFilter scope filter = (none, filter) := by
  cases scope with
  | page => exact absurd rfl h
  | empty | buffer _ | image | json => rfl

-- The picks of a select are those of its expressions.
theorem picks_eq_flatMap (q : Select Unit) : q.picks = q.expressions.flatMap Expr.picks := by
  obtain ⟨projections, source, filter, hints, position, note⟩ := q
  have hprojections : projections.flatMap Projection.picks =
      (projections.filterMap Projection.expr?).flatMap Expr.picks := by
    induction projections with
    | nil => rfl
    | cons p projections ih =>
      rw [List.flatMap_cons, ih]
      cases p <;> rfl
  rw [Select.picks, Select.expressions, List.flatMap_append, hprojections]
  cases filter with
  | none => rfl
  | some f => exact congrArg _ (List.append_nil _).symm

theorem refused_of_checkPicks {q : Select Unit} (hscope : Scope.ofSource catalog q.source = .ok scope)
    (h : checkPicks scope q.projections (splitFilter scope q.filter).2 = .error error) :
    q.Refused catalog error := by
  unfold checkPicks at h
  split at h
  case isTrue => cases h
  case isFalse hpage =>
    rw [splitFilter_of_ne_page hpage] at h
    split at h
    case h_2 => cases h
    case h_1 position rest hpicks =>
      cases h
      have hmem : position ∈ q.picks := by
        rw [Select.picks, hpicks]
        exact List.mem_cons_self
      rw [picks_eq_flatMap] at hmem
      obtain ⟨e, he, hposition⟩ := List.mem_flatMap.mp hmem
      obtain ⟨pick, hpick⟩ := Expr.exists_of_mem_picks hposition
      exact .pick hscope hpage he hpick

theorem refused_of_checkFilter {q : Select Unit} (hscope : Scope.ofSource catalog q.source = .ok scope)
    {nodes : Option String} {kept : Option Expr} (hsplit : splitFilter scope q.filter = (nodes, kept))
    (h : checkFilter scope kept = .error error) : q.Refused catalog error := by
  cases kept with
  | none => cases h
  | some rest =>
    rcases Except.bind_eq_error.mp h with h | ⟨_, _, h⟩
    · obtain ⟨x, hx, hrefused⟩ := rest.refused_of_infer h
      rcases parts_of_splitFilter hsplit hx with ⟨left, right, position, rfl⟩ | ⟨f, hf, hx⟩
      · exact absurd rfl (hrefused.ne_and left right position)
      · exact .expression hscope (List.mem_append_right _ (Option.mem_toList.mpr hf)) hx hrefused
    · cases h

-- A select that was settled is where it was.
theorem position_of_settle {q : Select Unit} {settled : Select Settled} (h : q.settle catalog = .ok settled) :
    settled.position = q.position := by
  cases q
  obtain ⟨_, _, _, _, _, _, _, _, _, _, _, _, _, _, rfl⟩ := settle_eq_ok.mp h
  rfl

-- The hints of a source are not touched.
theorem downloadHints_settle {source : Source Unit} {settled : Source Settled}
    (h : source.settle catalog = .ok settled) : downloadHints settled = downloadHints source := by
  cases source with
  | nothing | buffer _ _ | download _ _ _ _ =>
    cases h
    rfl
  | downloadEach kind urls hints position =>
    obtain ⟨_, _, _, rfl⟩ := settle_downloadEach_eq_ok.mp h
    rfl

theorem refused_of_scope {q : Select Unit} (h : Scope.ofSource catalog q.source = .error error) :
    q.Refused catalog error := by
  cases hsource : q.source with
  | buffer name position =>
    rw [hsource, Scope.ofSource] at h
    split at h
    case h_1 => cases h
    case h_2 hnone =>
      cases h
      exact .buffer hsource hnone
  | nothing =>
    rw [hsource] at h
    cases h
  | download kind _ _ _ | downloadEach kind _ _ _ =>
    rw [hsource] at h
    cases kind <;> cases h

mutual

/-- A select that is refused is so for itself, or one of its url queries is. -/
theorem Script.Select.refused_of_settle : (q : Select Unit) → ∀ {error}, q.settle catalog = .error error →
    ∃ q' ∈ q.selects, q'.Refused catalog error
  | ⟨projections, source, filter, hints, position, note⟩, error, h => by
    rw [settle_eq] at h
    have hself {q : Select Unit} (h : q.Refused catalog error) : ∃ q' ∈ q.selects, q'.Refused catalog error :=
      ⟨q, q.self_mem_selects, h⟩
    rcases Except.bind_eq_error.mp h with h | ⟨source', hsource, h⟩
    · rcases source.refused_of_settle h with ⟨q, hq, hrefused⟩ | hrefused
      · rw [Select.selects]
        exact ⟨q, List.mem_cons_of_mem _ hq, hrefused⟩
      · exact hself (hrefused _ rfl)
    rw [scope_settle hsource, downloadHints_settle hsource] at h
    rcases Except.bind_eq_error.mp h with h | ⟨scope, hscope, h⟩
    · exact hself (refused_of_scope h)
    rcases Except.bind_eq_error.mp h with h | ⟨⟨threads, js⟩, _, h⟩
    · obtain ⟨count, position, hmem, hcount, rfl⟩ := thread_of_settleHints h
      exact hself (.thread hmem hcount)
    rcases Except.bind_eq_error.mp h with h | ⟨_, _, h⟩
    · exact hself (refused_of_checkPicks hscope h)
    rcases Except.bind_eq_error.mp h with h | ⟨columns, _, h⟩
    · exact hself (refused_of_selectColumns hscope h)
    rcases Except.bind_eq_error.mp h with h | ⟨_, _, h⟩
    · exact hself (refused_of_checkFilter hscope rfl h)
    · cases h

-- A source is refused for its url query, or for the number of columns of the query.
theorem Script.Source.refused_of_settle : (source : Source Unit) → ∀ {error},
    source.settle catalog = .error error → (∃ q ∈ source.selects, q.Refused catalog error) ∨
      ∀ q : Select Unit, q.source = source → q.Refused catalog error
  | .nothing, _, h | .buffer _ _, _, h | .download _ _ _ _, _, h => nomatch h
  | .downloadEach kind urls hints position, error, h => by
    rw [Source.settle] at h
    rcases Except.bind_eq_error.mp h with h | ⟨settled, hsettled, h⟩
    · exact .inl (urls.refused_of_settle h)
    · rcases Except.error_of_check h with ⟨hcolumns, rfl⟩ | ⟨_, h⟩
      · rw [position_of_settle hsettled]
        exact .inr fun q hq => .urls hq hsettled hcolumns
      · cases h

end

/-! ## 5. Statements -/

section Statements

variable {position : Position} {query : Select Unit}

-- The declarations of a buffer are looked at one by one.
theorem refused_of_declareColumns {name : String} {before decls : List ColumnDecl}
    {columns : List BufferColumn}
    (hcolumns : ∀ c ∈ columns, c.identity = true → ∃ d ∈ before, d.identity = true)
    (h : declareColumns name decls columns = .error error) :
    Statement.Refused catalog (.createBuffer name (before ++ decls) position) error := by
  -- By induction on the declarations: an identity among the columns so far was declared before.
  induction decls generalizing before columns with
  | nil => cases h
  | cons d decls ih =>
    have hd : d ∈ before ++ d :: decls := List.mem_append_right _ List.mem_cons_self
    unfold declareColumns at h
    cases htype : ValueType.ofName? d.typeName with
    | none =>
      simp only [htype] at h
      cases h
      exact .unknownType hd htype
    | some type =>
      simp only [htype] at h
      have hrest (h : declareColumns name decls (columns ++ [⟨d.name, type, d.identity⟩]) = .error error) :
          Statement.Refused catalog (.createBuffer name (before ++ d :: decls) position) error := by
        rw [List.append_cons]
        refine ih (fun c hc hidentity => ?_) h
        rcases List.mem_append.mp hc with hc | hc
        · obtain ⟨other, hother, hidentity⟩ := hcolumns c hc hidentity
          exact ⟨other, List.mem_append_left _ hother, hidentity⟩
        · obtain rfl := List.mem_singleton.mp hc
          exact ⟨d, List.mem_append_right _ (List.mem_singleton_self d), hidentity⟩
      by_cases hidentity : d.identity = true
      · rw [if_pos hidentity] at h
        rcases Except.error_of_check h with ⟨htaken, rfl⟩ | ⟨_, h⟩
        · obtain ⟨c, hc, hcidentity⟩ := List.any_eq_true.mp htaken
          obtain ⟨other, hother, hotherIdentity⟩ := hcolumns c hc hcidentity
          exact .multipleIdentity hother hotherIdentity hidentity
        rcases Except.error_of_check h with ⟨hinteger, rfl⟩ | ⟨_, h⟩
        · exact .identityType hd htype hinteger
        · exact hrest h
      · rw [if_neg hidentity] at h
        exact hrest h

-- So are the names of the columns of an insert.
theorem refused_of_nameTargets {target : String} {schema : Schema} {before names : List String}
    {targets : List Nat} (hschema : catalog.find? target = some schema)
    (htargets : ∀ i ∈ targets, ∃ other ∈ before, schema.position? other = some i)
    (h : nameTargets target schema position names targets = .error error) :
    Statement.Refused catalog (.insert target (some (before ++ names)) query position) error := by
  -- By induction on the names: the targets so far were named before.
  induction names generalizing before targets with
  | nil => cases h
  | cons name names ih =>
    have hname : name ∈ before ++ name :: names := List.mem_append_right _ List.mem_cons_self
    rw [nameTargets] at h
    cases hindex : schema.position? name with
    | none =>
      simp only [hindex] at h
      cases h
      exact .unknownColumn hschema hname hindex
    | some index =>
      simp only [hindex] at h
      have hlt : index < schema.columns.length := (List.findIdx?_eq_some_iff_getElem.mp hindex).1
      have hcolumn : schema.columns[index]? = some schema.columns[index] := List.getElem?_eq_getElem hlt
      rcases Except.error_of_check h with ⟨hidentity, rfl⟩ | ⟨_, h⟩
      · rw [hcolumn] at hidentity
        exact .identityInsert hschema hname hindex hcolumn hidentity
      rcases Except.error_of_check h with ⟨htaken, rfl⟩ | ⟨_, h⟩
      · obtain ⟨other, hother, hotherIndex⟩ := htargets index htaken
        exact .duplicateColumn hschema hother hotherIndex hindex
      · rw [List.append_cons]
        refine ih (fun i hi => ?_) h
        rcases List.mem_append.mp hi with hi | hi
        · obtain ⟨other, hother, hotherIndex⟩ := htargets i hi
          exact ⟨other, List.mem_append_left _ hother, hotherIndex⟩
        · obtain rfl := List.mem_singleton.mp hi
          exact ⟨name, List.mem_append_right _ (List.mem_singleton_self name), hindex⟩

-- A column that does not take what the select gives for it.
theorem exists_of_checkTypes {target : String} {schema : Schema} {pairs : List (Nat × Column)}
    (h : checkTypes target schema position pairs = .error error) : ∃ pair ∈ pairs, ∃ column,
      schema.columns[pair.1]? = some column ∧ column.type.accepts pair.2.type = false ∧
        error = ⟨position, .typeMismatch s!"column '{column.name}' of buffer '{target}'"
          column.type pair.2.type⟩ := by
  induction pairs with
  | nil => cases h
  | cons pair pairs ih =>
    obtain ⟨index, produced⟩ := pair
    unfold checkTypes at h
    cases hcolumn : schema.columns[index]? with
    | none =>
      simp only [hcolumn] at h
      obtain ⟨pair, hpair, hrefused⟩ := ih h
      exact ⟨pair, List.mem_cons_of_mem _ hpair, hrefused⟩
    | some column =>
      simp only [hcolumn] at h
      by_cases haccepts : column.type.accepts produced.type = true
      · rw [if_pos haccepts] at h
        obtain ⟨pair, hpair, hrefused⟩ := ih h
        exact ⟨pair, List.mem_cons_of_mem _ hpair, hrefused⟩
      · rw [if_neg haccepts] at h
        cases h
        exact ⟨_, List.mem_cons_self, column, hcolumn, Bool.eq_false_iff.mpr haccepts, rfl⟩

end Statements

/-- What has no settled form is refused. -/
theorem Script.Statement.refused_of_settle {st : Statement Unit} (h : st.settle catalog = .error error) :
    st.Refused catalog error := by
  cases st with
  | createBuffer name columns position =>
    unfold Statement.settle at h
    rcases Except.error_of_check h with ⟨hname, rfl⟩ | ⟨_, h⟩
    · exact .duplicateBuffer hname
    rcases Except.bind_eq_error.mp h with h | ⟨_, _, h⟩
    · have hnone : ∀ c ∈ ([] : List BufferColumn), c.identity = true →
          ∃ d ∈ ([] : List ColumnDecl), d.identity = true := fun _ hc => absurd hc List.not_mem_nil
      exact refused_of_declareColumns hnone (Except.map_eq_error.mp h)
    · cases h
  | insert target columns query position =>
    rw [Statement.settle] at h
    cases hschema : catalog.find? target with
    | none =>
      simp only [hschema] at h
      cases h
      exact .unknownTarget hschema
    | some schema =>
      simp only [hschema] at h
      rcases Except.bind_eq_error.mp h with h | ⟨settled, hquery, h⟩
      · obtain ⟨q, hq, hrefused⟩ := query.refused_of_settle h
        exact .select hq hrefused
      rcases Except.bind_eq_error.mp h with h | ⟨targets, htargets, h⟩
      · cases columns with
        | none => cases h
        | some names =>
          have hnone : ∀ i ∈ ([] : List Nat), ∃ other ∈ ([] : List String),
              schema.position? other = some i := fun _ hi => absurd hi List.not_mem_nil
          exact refused_of_nameTargets hschema hnone h
      rcases Except.error_of_check h with ⟨hcount, rfl⟩ | ⟨_, h⟩
      · exact .columnCount hschema hquery htargets hcount
      rcases Except.bind_eq_error.mp h with h | ⟨_, _, h⟩
      · obtain ⟨pair, hpair, column, hcolumn, haccepts, rfl⟩ := exists_of_checkTypes h
        exact .columnType hschema hquery htargets hpair hcolumn haccepts
      · cases h
  | select query =>
    rcases Except.bind_eq_error.mp h with h | ⟨_, _, h⟩
    · obtain ⟨q, hq, hrefused⟩ := query.refused_of_settle h
      exact .select hq hrefused
    · cases h

/-- A script is refused for a statement, where the buffers of the statements in front are declared. -/
theorem refused_of_settleFrom {program : Program Unit} (h : settleFrom catalog program = .error error) :
    ∃ before st behind, program = before ++ st :: behind ∧
      st.Refused (before.foldl Statement.declare catalog) error := by
  induction program generalizing catalog with
  | nil => cases h
  | cons st program ih =>
    rcases Except.bind_eq_error.mp h with h | ⟨⟨settled, after⟩, hsettled, h⟩
    · exact ⟨[], st, program, rfl, st.refused_of_settle h⟩
    rcases Except.bind_eq_error.mp h with h | ⟨_, _, h⟩
    · obtain ⟨before, st', behind, rfl, hrefused⟩ := ih h
      rw [declare_of_settle hsettled] at hrefused
      exact ⟨st :: before, st', behind, rfl, hrefused⟩
    · cases h

end Quarry
