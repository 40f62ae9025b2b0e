import Quarry.Proofs.Run.Scripts

/-!
# Soundness of types

The value of an operand has the type that analysis gave to its expression. It follows by induction on
operands, from what operators do with values of fitting types and from what buffers hold. Errors about
kinds of values are then left to text that spells no number.
-/

namespace Quarry

open Script (DownloadKind Expr)

/-! ## 1. Values of operands -/

/-- Somewhere within operands text is read as a number by `-`, `*` or `%`. -/
def ReadsText (scope : Scope) (parts : List Operand) : Prop :=
  ∃ op left right l r, .binary op left right ∈ parts ∧ left.type? scope = some l ∧
    right.type? scope = some r ∧ op.ReadsText l r

theorem ReadsText.mono {scope : Scope} {parts more : List Operand} (h : ReadsText scope parts)
    (hsub : parts ⊆ more) : ReadsText scope more := by
  obtain ⟨op, left, right, l, r, hmem, hrest⟩ := h
  exact ⟨op, left, right, l, r, hsub hmem, hrest⟩

/-- A candidate that a scope describes: a stored row has values of the types of its columns. -/
def Candidate.FitsScope (scope : Scope) (c : Candidate) : Prop :=
  ∀ schema cells, scope = .buffer schema → c = .stored cells → schema.Holds cells

section Values

variable {scope : Scope} {x : Extractor} {c : Candidate}

theorem column_fits (hc : c.FitsScope scope) {i : Nat} {t : ValueType}
    (ht : (Operand.column i).type? scope = some t) : (c.column i).Fits False t := by
  -- Rows of buffers have values of the types of the columns; every other candidate gives null.
  cases c with
  | stored cells =>
    cases scope with
    | buffer schema =>
      have ht : schema.columns[i]?.map BufferColumn.type = some t := ht
      obtain ⟨column, hcolumn, rfl⟩ := Option.map_eq_some_iff.mp ht
      exact (hc schema cells rfl rfl).getD hcolumn
    | empty | page | image | json => cases ht
  | alone | page _ _ | image _ | object _ | failed _ => exact .null t

-- Fields, properties and extractions are null where the candidate does not have them.
theorem field_fits (f : PageField) : (c.field f).Fits False f.type := by
  cases c <;> cases f <;> first | exact .null _ | exact .string _ | exact .integer _

theorem property_fits (name : String) : (c.property name).Fits False .string := by
  cases c with
  | object properties =>
    show (((properties.lookup name).map Value.string).getD .null).Fits False .string
    cases properties.lookup name with
    | none => exact .null _
    | some s => exact .string s
  | alone | stored _ | page _ _ | image _ | failed _ => exact .null _

theorem extract_fits {e : Extraction} {v : Value} (h : c.extract x e = .ok v) :
    v.Fits False .string := by
  cases c with
  | page p place =>
    unfold Candidate.extract Extractor.extract at h
    obtain ⟨selector, _, h⟩ := Except.bind_eq_ok.mp h
    split at h
    · cases h
      exact .null _
    · obtain ⟨cut, _, h⟩ := Except.bind_eq_ok.mp h
      cases h
      cases cut with
      | none => exact .null _
      | some s => exact .string s
  | alone | stored _ | image _ | object _ | failed _ =>
    cases h
    exact .null _

-- The value of a result so far is one of the common type of all results.
theorem sofar_fits {loose : Prop} : (arms : Arms) → {sofar t : ValueType} →
    arms.type? scope sofar = some t → {v : Value} → v.Fits loose sofar → v.Fits loose t
  -- Each branch makes the type so far wider, if it changes it.
  | .done, _, _, h, _, hv => by
    cases h
    exact hv
  | .otherwise result, _, _, h, _, hv => by
    rw [Arms.type?] at h
    obtain ⟨r, _, h⟩ := Option.bind_eq_some_iff.mp h
    exact Value.Fits.unify h (Or.inl hv)
  | .arm condition result rest, _, _, h, _, hv => by
    rw [Arms.type?] at h
    obtain ⟨_, _, h⟩ := Option.bind_eq_some_iff.mp h
    obtain ⟨r, _, h⟩ := Option.bind_eq_some_iff.mp h
    obtain ⟨joined, hjoined, h⟩ := Option.bind_eq_some_iff.mp h
    exact sofar_fits rest h (Value.Fits.unify hjoined (Or.inl hv))

mutual

/-- The value of an operand has its type. -/
theorem eval_fits (hc : c.FitsScope scope) : (o : Operand) → {t : ValueType} → {v : Value} →
    o.type? scope = some t → o.eval x c = .ok v → v.Fits (ReadsText scope o.parts) t
  -- By induction on operands and branches. What an operand reads loosely it passes on to whatever it
  -- is part of.
  | .literal value, t, v, ht, hv => by
    cases ht
    cases hv
    exact .self value
  | .column i, t, v, ht, hv => by
    cases hv
    exact (column_fits hc ht).mono False.elim
  | .field f, t, v, ht, hv => by
    rw [Operand.type?] at ht
    split at ht
    · cases ht
      cases hv
      exact (field_fits f).mono False.elim
    · cases ht
  | .property name, t, v, ht, hv => by
    rw [Operand.type?] at ht
    split at ht
    · cases ht
      cases hv
      exact (property_fits name).mono False.elim
    · cases ht
  | .extract e, t, v, ht, hv => by
    cases ht
    exact (extract_fits hv).mono False.elim
  | .simpleCase subject arms, t, v, ht, hv => by
    rw [Operand.type?] at ht
    obtain ⟨_, _, ht⟩ := Option.bind_eq_some_iff.mp ht
    unfold Operand.eval at hv
    obtain ⟨_, _, hv⟩ := Except.bind_eq_ok.mp hv
    rw [Operand.parts]
    exact (arms_fits hc arms ht hv).mono fun h => h.mono fun p hp =>
      List.mem_cons_of_mem _ (List.mem_append_right _ hp)
  | .searchedCase arms, t, v, ht, hv => by
    rw [Operand.type?] at ht
    unfold Operand.eval at hv
    rw [Operand.parts]
    exact (arms_fits hc arms ht hv).mono fun h => h.mono fun p hp => List.mem_cons_of_mem _ hp
  | .binary op left right, t, v, ht, hv => by
    rw [Operand.type?] at ht
    obtain ⟨l, hl, ht⟩ := Option.bind_eq_some_iff.mp ht
    obtain ⟨r, hr, ht⟩ := Option.bind_eq_some_iff.mp ht
    cases hlogical : op.isLogical with
    | true =>
      -- What joins conditions is a boolean, whatever its sides are.
      have htype : t = .boolean := by
        unfold Operator.type? at ht
        rw [hlogical, Bool.or_true] at ht
        cases ht
        rfl
      obtain ⟨b, rfl⟩ := boolean_of_logical hlogical hv
      rw [htype]
      exact .boolean b
    | false =>
      rw [eval_binary hlogical] at hv
      obtain ⟨a, ha, hv⟩ := Except.bind_eq_ok.mp hv
      obtain ⟨b, hb, hv⟩ := Except.bind_eq_ok.mp hv
      -- Any other operator meets values that fit the types of its sides.
      have hafits := eval_fits hc left hl ha
      have hbfits := eval_fits hc right hr hb
      have hfits := apply_fits hlogical ht hafits hbfits (Except.mapError_eq_ok.mp hv)
      rw [Operand.parts]
      refine hfits.mono ?_
      -- Text was read within the left side or the right one, or is read by the operator itself.
      rintro (h | h | h)
      · exact h.mono fun p hp => List.mem_cons_of_mem _ (List.mem_append_left _ hp)
      · exact h.mono fun p hp => List.mem_cons_of_mem _ (List.mem_append_right _ hp)
      · exact ⟨op, left, right, l, r, List.mem_cons_self, hl, hr, h⟩
  | .not operand, t, v, ht, hv => by
    rw [Operand.type?] at ht
    obtain ⟨_, _, ht⟩ := Option.bind_eq_some_iff.mp ht
    cases ht
    unfold Operand.eval at hv
    obtain ⟨a, _, hv⟩ := Except.bind_eq_ok.mp hv
    cases a <;> cases hv <;> first | exact .null _ | exact .boolean _

-- The value of a case has the common type of its results.
theorem arms_fits (hc : c.FitsScope scope) : (arms : Arms) → {subject : Option Value} →
    {sofar t : ValueType} → {v : Value} → arms.type? scope sofar = some t →
      arms.eval x c subject = .ok v → v.Fits (ReadsText scope arms.parts) t
  | .done, _, _, t, _, _, hv => by
    cases hv
    exact .null t
  | .otherwise result, _, sofar, t, v, ht, hv => by
    rw [Arms.type?] at ht
    obtain ⟨r, hr, ht⟩ := Option.bind_eq_some_iff.mp ht
    unfold Arms.eval at hv
    rw [Arms.parts]
    exact Value.Fits.unify ht (Or.inr (eval_fits hc result hr hv))
  | .arm condition result rest, subject, sofar, t, v, ht, hv => by
    rw [Arms.type?] at ht
    obtain ⟨_, _, ht⟩ := Option.bind_eq_some_iff.mp ht
    obtain ⟨r, hr, ht⟩ := Option.bind_eq_some_iff.mp ht
    obtain ⟨joined, hjoined, ht⟩ := Option.bind_eq_some_iff.mp ht
    unfold Arms.eval at hv
    obtain ⟨w, _, hv⟩ := Except.bind_eq_ok.mp hv
    -- The value is that of this branch, or of one of the rest.
    have hbranch : result.eval x c = .ok v ∨ rest.eval x c subject = .ok v := by
      cases subject <;> simp only at hv <;> split at hv <;>
        first | exact Or.inl hv | exact Or.inr hv
    rw [Arms.parts]
    rcases hbranch with hv | hv
    · have hfits := eval_fits hc result hr hv
      refine (sofar_fits rest ht (Value.Fits.unify hjoined (Or.inr hfits))).mono fun h => ?_
      exact h.mono fun p hp => List.mem_append_left _ (List.mem_append_right _ hp)
    · exact (arms_fits hc rest ht hv).mono fun h => h.mono fun p hp => List.mem_append_right _ hp

end

end Values

/-! ## 2. Values and errors of runs -/

-- What is offered to a select fits its scope: the rows of a buffer have values of its types.
theorem SelectStep.Offers.fitsScope {catalog : Catalog} {w : World} {store : Store} {wires : Nat}
    {q : SelectStep} {x : Extractor} {c : Candidate} (h : q.Offers w store wires x c)
    (hmatches : store.Matches catalog) : c.FitsScope (q.source.scope catalog) := by
  -- A stored row comes from the buffer that the select scans, and the catalog has its schema.
  rintro schema cells hscope rfl
  obtain ⟨name, b, hsource, hb, hcells⟩ := h.mem_rows
  have hfind : catalog.find? name = some b.schema := by
    rw [← hmatches.schemas name, hb]
    rfl
  rw [hsource, SourceStep.scope, hfind] at hscope
  cases hscope
  exact (hmatches.sound b (Store.mem_of_get? hb)).rows cells hcells

/-- What holds of the values and the errors of a plan in its runs with a setting. -/
structure Plan.TypesHold (plan : Plan) (s : Setting) : Prop where
  /-- A projection that has a value for a candidate has one of the type of its column. If an integer
  is expected and the value is a float, then text is read as a number within the projection. -/
  values : ∀ before step after j, plan = before ++ step :: after → Plan.Reaches s before j →
    ∀ q ∈ step.selects, ∀ x c, q.Offers s.world j.store j.wires x c →
      ∀ (k : Nat) (o : Operand) (column : Column), q.projections[k]? = some o →
        q.columns[k]? = some column →
        o.type? (q.source.scope (Plan.catalog before)) = some column.type ∧
        ∀ v, o.eval x c = .ok v →
          v.Fits (ReadsText (q.source.scope (Plan.catalog before)) o.parts) column.type
  /-- If an operator complains about kinds of values, it is `-`, `*`, `/` or `%`, no side is a boolean,
  and a side is text that spells no number. -/
  operators : ∀ op l r, (Plan.run s plan).error = some (.operator (.mismatch op l r)) →
    (op = .subtract ∨ op = .multiply ∨ op = .divide ∨ op = .modulo) ∧
    l ≠ .boolean ∧ r ≠ .boolean ∧
    ∃ before step after j, plan = before ++ step :: after ∧ Plan.Reaches s before j ∧
      ∃ q ∈ step.selects, ∃ x c, q.Offers s.world j.store j.wires x c ∧
        ∃ o ∈ q.operands, ∃ left right a b, .binary op left right ∈ o.parts ∧
          left.eval x c = .ok a ∧ right.eval x c = .ok b ∧ a.type = l ∧ b.type = r ∧
          (a.IsWordy ∨ b.IsWordy)
  /-- If a value cannot be converted to the type of its column, the type is one of numbers. The value is
  text that spells no such number, or a float that is no integer, which reading text gave. -/
  conversions : ∀ buffer column text target,
    (Plan.run s plan).error = some (.store (.conversion buffer column text target)) →
      ∃ before targets query after j,
        plan = before ++ .insert buffer targets query :: after ∧ Plan.Reaches s before j ∧
        ∃ x c, query.Offers s.world j.store j.wires x c ∧
          ∃ (schema : Schema) (k t : Nat) (declared : BufferColumn) (o : Operand) (v : Value),
            (Plan.catalog before).find? buffer = some schema ∧
            targets[k]? = some t ∧ schema.columns[t]? = some declared ∧
            declared.name = column ∧ declared.type = target ∧
            query.projections[k]? = some o ∧ o.eval x c = .ok v ∧ v.text = text ∧
            ((target = .float ∧
                ∃ s, v = .string s ∧ Number.readFloat? (Text.trimChars s.toList) = none) ∨
              (target = .integer ∧
                ((∃ s, v = .string s ∧ Number.readInt64? (Text.trimChars s.toList) = none) ∨
                  (ReadsText (query.source.scope (Plan.catalog before)) o.parts ∧
                    ∃ x, v = .float x ∧ Value.integerOfFloat? x = none))))

/-- Where an operator of a select that fits complains about kinds of values. -/
theorem mismatch_of_fails {catalog : Catalog} {w : World} {store : Store} {wires : Nat}
    {query : SelectStep} (hfits : ∀ q ∈ query.selects, q.Fits catalog)
    (hmatches : store.Matches catalog) {op : Operator} {l r : ValueType}
    (h : query.Fails w store wires (.operator (.mismatch op l r))) :
    (op = .subtract ∨ op = .multiply ∨ op = .divide ∨ op = .modulo) ∧
    l ≠ .boolean ∧ r ≠ .boolean ∧
    ∃ q ∈ query.selects, ∃ x c, q.Offers w store wires x c ∧
      ∃ o ∈ q.operands, ∃ left right a b, .binary op left right ∈ o.parts ∧
        left.eval x c = .ok a ∧ right.eval x c = .ok b ∧ a.type = l ∧ b.type = r ∧
        (a.IsWordy ∨ b.IsWordy) := by
  cases h with
  | outside h => cases h
  | @operator p x c o _ hp hc ho h =>
    obtain ⟨op', left, right, a, b, hmem, hlogical, ha, hb, happly⟩ := h
    -- The operator has a type, as all parts of operands that fit have.
    have hscope := hc.fitsScope hmatches
    obtain ⟨t, ht⟩ := (hfits p hp).exists_type? ho
    obtain ⟨t', ht'⟩ := type?_of_mem_parts o ht _ hmem
    rw [Operand.type?] at ht'
    obtain ⟨lt, hlt, ht'⟩ := Option.bind_eq_some_iff.mp ht'
    obtain ⟨rt, hrt, ht'⟩ := Option.bind_eq_some_iff.mp ht'
    obtain ⟨rfl, rfl, rfl, hadd, hcompare, hab, hbb, hwordy⟩ := apply_mismatch hlogical ht'
      (eval_fits hscope left hlt ha) (eval_fits hscope right hrt hb) happly
    have hops : op = .subtract ∨ op = .multiply ∨ op = .divide ∨ op = .modulo := by
      by_cases hdivide : op = .divide
      · exact Or.inr (Or.inr (Or.inl hdivide))
      · rcases arithmetic_cases hcompare hlogical hadd hdivide with h | h | h
        · exact Or.inl h
        · exact Or.inr (Or.inl h)
        · exact Or.inr (Or.inr (Or.inr h))
    have hkind : ∀ v : Value, (∀ b, v ≠ .boolean b) → v.type ≠ .boolean := by
      intro v hv
      cases v with
      | boolean b => exact absurd rfl (hv b)
      | null | integer _ | float _ | string _ => exact nofun
    exact ⟨hops, hkind a hab, hkind b hbb, p, hp, x, c, hc, o, ho, left, right, a, b, hmem, ha, hb,
      rfl, rfl, hwordy⟩

/-- The types that analysis gives to the expressions of a script hold in the runs of its plan, for any
answers, settings and order of moves. The operand of an expression has the type of the expression. -/
theorem typesHold_of_compile {source : String} {plan : Plan} (h : compile source = .ok plan) :
    (∀ s, plan.TypesHold s) ∧
    ∀ (scope : Scope) (e : Expr) (t : ValueType), e.infer scope = .ok t →
      ∃ o, Operand.ofExpr scope e = .ok o ∧ o.type? scope = some t := by
  have hfits := fits_of_compile h
  -- Plans fit their buffers, and the buffers of a run are those that fit: both meet at each step.
  refine ⟨fun s => ⟨?_, ?_, ?_⟩, fun scope e t ht => ?_⟩
  · intro before step behind j hplan hreach q hq x c hc k o column ho hcolumn
    have htype := ((hfits before step behind hplan).1 q hq).type?_projection ho hcolumn
    have hscope := hc.fitsScope (matches_of_reaches h hplan hreach)
    exact ⟨htype, fun v hv => eval_fits hscope o htype hv⟩
  · intro op l r herror
    obtain ⟨before, step, behind, j, hplan, hreach, hstep, hfails⟩ := fails_of_error h herror
    have hmatches := matches_of_reaches h hplan hreach
    cases hfails with
    | ofSelect hq =>
      obtain ⟨hops, hl, hr, hwhere⟩ := mismatch_of_fails hstep.1 hmatches hq
      exact ⟨hops, hl, hr, before, _, behind, j, hplan, hreach, hwhere⟩
    | ofQuery hq =>
      obtain ⟨hops, hl, hr, hwhere⟩ := mismatch_of_fails hstep.1 hmatches hq
      exact ⟨hops, hl, hr, before, _, behind, j, hplan, hreach, hwhere⟩
  · intro buffer column text target herror
    obtain ⟨before, step, behind, j, hplan, hreach, hstep, hfails⟩ := fails_of_error h herror
    have hmatches := matches_of_reaches h hplan hreach
    cases hfails with
    | ofSelect hq =>
      cases hq with
      | outside hout => cases hout
    | ofQuery hq =>
      cases hq with
      | outside hout => cases hout
    | @ofValue _ schema targets query rows wires row p declared hfind hrows hrow hp hc hv =>
      -- The value stands in a row of the select, so that a projection has it for a candidate.
      obtain ⟨k, hk⟩ := List.mem_iff_getElem?.mp hp
      obtain ⟨htarget, hvalue⟩ := List.getElem?_zip_eq_some.mp hk
      obtain ⟨x, c, hoffers, hgives⟩ := SelectStep.exists_offered hrows hrow
      obtain ⟨o, ho, heval⟩ := exists_getElem?_right hgives hvalue
      obtain ⟨schema', hfind', htakes⟩ := hstep.2
      rw [hfind] at hfind'
      cases hfind'
      obtain ⟨produced, hproduced, declared', hdeclared', _, haccepts⟩ :=
        exists_getElem?_left htakes.accepts htarget
      rw [hc] at hdeclared'
      cases hdeclared'
      have hquery := hstep.1 query (SelectStep.self_mem_selects query)
      have hvfits := eval_fits (hoffers.fitsScope hmatches) o (hquery.type?_projection ho hproduced)
        heval
      refine ⟨before, targets, query, behind, j, hplan, hreach, x, c, hoffers, schema, k, p.1,
        declared, o, p.2, hfind, htarget, hc, rfl, rfl, ho, heval, rfl, ?_⟩
      rcases convert_eq_none haccepts hvfits hv with h | ⟨hinteger, h | ⟨hreads, _, hfloat⟩⟩
      · exact Or.inl h
      · exact Or.inr ⟨hinteger, Or.inl h⟩
      · exact Or.inr ⟨hinteger, Or.inr ⟨hreads, hfloat⟩⟩
  · obtain ⟨o, ho, hot, _⟩ := ofExpr_of_infer e ht
    exact ⟨o, ho, hot⟩

/-- Text that is multiplied counts as an integer and turns out a float. -/
theorem typesHold_multiplied_text :
    ∃ plan, compile "create buffer t(a int)\ninsert into t select '1.5' * 3" = .ok plan ∧
      (∀ s, plan.TypesHold s) ∧
      ∀ (scope : Scope) (e : Expr) (t : ValueType), e.infer scope = .ok t →
        ∃ o, Operand.ofExpr scope e = .ok o ∧ o.type? scope = some t :=
  Except.exists_ok_of_isSome (by decide +kernel) fun _ hplan => typesHold_of_compile hplan

end Quarry
