import Quarry.Proofs.Run.Choice
import Quarry.Proofs.Run.Readings

/-!
# Meaning of operands

Which value an operand means for a candidate, or which error of an operator halts it: rules for each kind
of operand, without an extractor. A select that was prepared evaluates its operands by these rules. So they
say as well which row a candidate fills, and at which candidate rows stop.
-/

namespace Quarry

/-! ## 1. Rules -/

/-- A value counts as true. -/
inductive Value.Truthy : Value → Prop where
  | boolean : Truthy (.boolean true)
  | integer {n : Int64} (h : n ≠ 0) : Truthy (.integer n)
  | float {x : Float} (h : (x == 0) = false) : Truthy (.float x)
  | string {s : String} (h : s ≠ "") : Truthy (.string s)

mutual

/-- The value that an operand means for a candidate. -/
inductive Operand.Means (c : Candidate) : Operand → Value → Prop where
  | literal {v : Value} : Operand.Means c (.literal v) v
  | has {o : Operand} {v : Value} (h : c.Has o v) : Operand.Means c o v
  | simpleCase {subject : Operand} {arms : Arms} {s v : Value} (hsubject : Operand.Means c subject s)
      (harms : Arms.Means c (some s) arms v) : Operand.Means c (.simpleCase subject arms) v
  | searchedCase {arms : Arms} {v : Value} (harms : Arms.Means c none arms v) :
      Operand.Means c (.searchedCase arms) v
  /-- The right side of a conjunction is left alone if the left side does not count as true. -/
  | andLeft {left right : Operand} {a : Value} (hleft : Operand.Means c left a) (ha : ¬a.Truthy) :
      Operand.Means c (.binary .and left right) (.boolean false)
  | andRight {left right : Operand} {a b : Value} {truth : Bool} (hleft : Operand.Means c left a)
      (ha : a.Truthy) (hright : Operand.Means c right b) (htruth : truth = true ↔ b.Truthy) :
      Operand.Means c (.binary .and left right) (.boolean truth)
  /-- That of a disjunction is left alone if the left side does. -/
  | orLeft {left right : Operand} {a : Value} (hleft : Operand.Means c left a) (ha : a.Truthy) :
      Operand.Means c (.binary .or left right) (.boolean true)
  | orRight {left right : Operand} {a b : Value} {truth : Bool} (hleft : Operand.Means c left a)
      (ha : ¬a.Truthy) (hright : Operand.Means c right b) (htruth : truth = true ↔ b.Truthy) :
      Operand.Means c (.binary .or left right) (.boolean truth)
  | operator {op : Operator} {left right : Operand} {a b v : Value} (hop : op.isLogical = false)
      (hleft : Operand.Means c left a) (hright : Operand.Means c right b) (h : op.apply a b = .ok v) :
      Operand.Means c (.binary op left right) v
  | notNull {o : Operand} (h : Operand.Means c o .null) : Operand.Means c (.not o) .null
  | not {o : Operand} {v : Value} {truth : Bool} (h : Operand.Means c o v) (hv : v ≠ .null)
      (htruth : truth = true ↔ ¬v.Truthy) : Operand.Means c (.not o) (.boolean truth)

/-- The value that the branches of a case mean for its subject, or for no subject. -/
inductive Arms.Means (c : Candidate) : Option Value → Arms → Value → Prop where
  | done {subject : Option Value} : Arms.Means c subject .done .null
  | otherwise {subject : Option Value} {result : Operand} {v : Value}
      (h : Operand.Means c result v) : Arms.Means c subject (.otherwise result) v
  | hit {subject : Option Value} {condition result : Operand} {rest : Arms} {tested v : Value}
      (hcondition : Operand.Means c condition tested) (hhit : tested.Hits subject)
      (h : Operand.Means c result v) : Arms.Means c subject (.arm condition result rest) v
  | miss {subject : Option Value} {condition result : Operand} {rest : Arms} {tested v : Value}
      (hcondition : Operand.Means c condition tested) (hmiss : ¬tested.Hits subject)
      (h : Arms.Means c subject rest v) : Arms.Means c subject (.arm condition result rest) v

end

mutual

/-- The error of the first operator without a result that an operand comes to for a candidate. -/
inductive Operand.Halts (c : Candidate) (e : OperatorError) : Operand → Prop where
  | left {op : Operator} {left right : Operand} (h : Operand.Halts c e left) :
      Operand.Halts c e (.binary op left right)
  | right {op : Operator} {left right : Operand} {a : Value} (hleft : left.Means c a)
      (hand : op = .and → a.Truthy) (hor : op = .or → ¬a.Truthy) (h : Operand.Halts c e right) :
      Operand.Halts c e (.binary op left right)
  | operator {op : Operator} {left right : Operand} {a b : Value} (hop : op.isLogical = false)
      (hleft : left.Means c a) (hright : right.Means c b) (h : op.apply a b = .error e) :
      Operand.Halts c e (.binary op left right)
  | not {o : Operand} (h : Operand.Halts c e o) : Operand.Halts c e (.not o)
  | subject {subject : Operand} {arms : Arms} (h : Operand.Halts c e subject) :
      Operand.Halts c e (.simpleCase subject arms)
  | simpleCase {subject : Operand} {arms : Arms} {s : Value} (hsubject : subject.Means c s)
      (h : Arms.Halts c e (some s) arms) : Operand.Halts c e (.simpleCase subject arms)
  | searchedCase {arms : Arms} (h : Arms.Halts c e none arms) :
      Operand.Halts c e (.searchedCase arms)

/-- The error of the first operator without a result that the branches of a case come to. -/
inductive Arms.Halts (c : Candidate) (e : OperatorError) : Option Value → Arms → Prop where
  | otherwise {subject : Option Value} {result : Operand} (h : Operand.Halts c e result) :
      Arms.Halts c e subject (.otherwise result)
  | condition {subject : Option Value} {condition result : Operand} {rest : Arms}
      (h : Operand.Halts c e condition) : Arms.Halts c e subject (.arm condition result rest)
  | hit {subject : Option Value} {condition result : Operand} {rest : Arms} {tested : Value}
      (hcondition : condition.Means c tested) (hhit : tested.Hits subject)
      (h : Operand.Halts c e result) : Arms.Halts c e subject (.arm condition result rest)
  | miss {subject : Option Value} {condition result : Operand} {rest : Arms} {tested : Value}
      (hcondition : condition.Means c tested) (hmiss : ¬tested.Hits subject)
      (h : Arms.Halts c e subject rest) : Arms.Halts c e subject (.arm condition result rest)

end

/-! ## 2. Values -/

theorem isTruthy_iff {v : Value} : v.isTruthy ↔ v.Truthy := by
  constructor
  · intro h
    cases v with
    | null => cases h
    | boolean b =>
      cases b with
      | true => exact .boolean
      | false => cases h
    | integer n => exact .integer (by simpa [Value.isTruthy] using h)
    | float y => exact .float (by simpa [Value.isTruthy] using h)
    | string s => exact .string (by simpa [Value.isTruthy] using h)
  · intro h
    cases h with
    | boolean => rfl
    | integer h => simpa [Value.isTruthy] using h
    | float h => simpa [Value.isTruthy] using h
    | string h => simpa [Value.isTruthy] using h

/-! ## 3. Evaluation -/

/-- The formulas of extractions can be read. -/
def AllValid (extractions : List Extraction) : Prop := ∀ e ∈ extractions, ∀ f ∈ e.formulas, f.IsValid

theorem allValid_append {l m : List Extraction} : AllValid (l ++ m) ↔ AllValid l ∧ AllValid m :=
  List.forall_mem_append

theorem eval_not {x : Extractor} {c : Candidate} {o : Operand} : (Operand.not o).eval x c =
    (o.eval x c).map fun v => if v = .null then .null else .boolean !v.isTruthy := by
  rw [Operand.eval]
  cases o.eval x c with
  | error e => rfl
  | ok v => cases v <;> rfl

theorem eval_arm {x : Extractor} {c : Candidate} {subject : Option Value} {condition result : Operand}
    {rest : Arms} : (Arms.arm condition result rest).eval x c subject = (do
      let v ← condition.eval x c
      if v.Hits subject then result.eval x c else rest.eval x c subject) := by
  rw [Arms.eval]
  refine congrArg (condition.eval x c >>= ·) (funext fun v => ?_)
  by_cases hhit : v.Hits subject
  · rw [if_pos hhit]
    exact if_pos (hits_iff.mp hhit)
  · rw [if_neg hhit]
    exact if_neg fun htest => hhit (hits_iff.mpr htest)

section Evaluation

variable {x : Extractor} {c : Candidate}

mutual

/-- The value of an operand is what it means. -/
theorem means_of_eval (hx : x.Faithful) : (o : Operand) → {v : Value} → o.eval x c = .ok v → o.Means c v
  | .literal _, _, h => by
    cases h
    exact .literal
  | .column _, _, h => .has (has_of_eval hx .column h)
  | .field _, _, h => .has (has_of_eval hx .field h)
  | .property _, _, h => .has (has_of_eval hx .property h)
  | .extract _, _, h => .has (has_of_eval hx .extract h)
  | .simpleCase subject arms, v, h => by
    unfold Operand.eval at h
    obtain ⟨s, hs, h⟩ := Except.bind_eq_ok.mp h
    exact .simpleCase (means_of_eval hx subject hs) (means_of_eval_arms hx arms h)
  | .searchedCase arms, v, h => by
    unfold Operand.eval at h
    exact .searchedCase (means_of_eval_arms hx arms h)
  | .binary op left right, v, h => by
    cases hop : op.isLogical with
    | false =>
      rw [eval_binary hop] at h
      obtain ⟨a, ha, h⟩ := Except.bind_eq_ok.mp h
      obtain ⟨b, hb, h⟩ := Except.bind_eq_ok.mp h
      exact .operator hop (means_of_eval hx left ha) (means_of_eval hx right hb) (Except.mapError_eq_ok.mp h)
    | true =>
      rcases isLogical_iff.mp hop with rfl | rfl
      · rw [eval_and] at h
        obtain ⟨a, ha, h⟩ := Except.bind_eq_ok.mp h
        split at h
        next htruthy =>
          obtain ⟨b, hb, rfl⟩ := Except.map_eq_ok.mp h
          exact .andRight (means_of_eval hx left ha) (isTruthy_iff.mp htruthy) (means_of_eval hx right hb)
            isTruthy_iff
        next htruthy =>
          cases h
          exact .andLeft (means_of_eval hx left ha) (mt isTruthy_iff.mpr htruthy)
      · rw [eval_or] at h
        obtain ⟨a, ha, h⟩ := Except.bind_eq_ok.mp h
        split at h
        next htruthy =>
          cases h
          exact .orLeft (means_of_eval hx left ha) (isTruthy_iff.mp htruthy)
        next htruthy =>
          obtain ⟨b, hb, rfl⟩ := Except.map_eq_ok.mp h
          exact .orRight (means_of_eval hx left ha) (mt isTruthy_iff.mpr htruthy) (means_of_eval hx right hb)
            isTruthy_iff
  | .not o, v, h => by
    rw [eval_not] at h
    obtain ⟨a, ha, rfl⟩ := Except.map_eq_ok.mp h
    have hmeans := means_of_eval hx o ha
    split
    next hnull =>
      subst hnull
      exact .notNull hmeans
    next hnull => exact .not hmeans hnull (by rw [← isTruthy_iff]; simp)

theorem means_of_eval_arms (hx : x.Faithful) : (arms : Arms) → {subject : Option Value} → {v : Value} →
    arms.eval x c subject = .ok v → arms.Means c subject v
  | .done, _, _, h => by
    cases h
    exact .done
  | .otherwise result, _, _, h => .otherwise (means_of_eval hx result h)
  | .arm condition result rest, subject, v, h => by
    rw [eval_arm] at h
    obtain ⟨tested, htested, h⟩ := Except.bind_eq_ok.mp h
    have hcondition := means_of_eval hx condition htested
    split at h
    next hhit => exact .hit hcondition hhit (means_of_eval hx result h)
    next hmiss => exact .miss hcondition hmiss (means_of_eval_arms hx rest h)

end

mutual

/-- What an operand means is its value. -/
theorem eval_of_means (hx : x.Faithful) {o : Operand} {v : Value} (h : o.Means c v) : o.eval x c = .ok v := by
  cases h with
  | literal => rfl
  | has h => exact eval_of_has hx h
  | simpleCase hsubject harms =>
    unfold Operand.eval
    exact Except.bind_eq_ok.mpr ⟨_, eval_of_means hx hsubject, eval_arms_of_means hx harms⟩
  | searchedCase harms =>
    unfold Operand.eval
    exact eval_arms_of_means hx harms
  | andLeft hleft ha =>
    rw [eval_and, eval_of_means hx hleft]
    exact if_neg (mt isTruthy_iff.mp ha)
  | andRight hleft ha hright htruth =>
    rw [eval_and, eval_of_means hx hleft, eval_of_means hx hright]
    refine (if_pos (isTruthy_iff.mpr ha)).trans ?_
    rw [Except.map, Bool.eq_iff_iff.mpr (isTruthy_iff.trans htruth.symm)]
  | orLeft hleft ha =>
    rw [eval_or, eval_of_means hx hleft]
    exact if_pos (isTruthy_iff.mpr ha)
  | orRight hleft ha hright htruth =>
    rw [eval_or, eval_of_means hx hleft, eval_of_means hx hright]
    refine (if_neg (mt isTruthy_iff.mp ha)).trans ?_
    rw [Except.map, Bool.eq_iff_iff.mpr (isTruthy_iff.trans htruth.symm)]
  | operator hop hleft hright h =>
    rw [eval_binary hop, eval_of_means hx hleft, eval_of_means hx hright]
    exact Except.mapError_eq_ok.mpr h
  | notNull h =>
    rw [eval_not, eval_of_means hx h]
    rfl
  | not h hv htruth =>
    rw [eval_not, eval_of_means hx h, Except.map, if_neg hv]
    refine congrArg (fun truth => Except.ok (Value.boolean truth)) (Bool.eq_iff_iff.mpr ?_)
    rw [htruth, ← isTruthy_iff]
    simp

theorem eval_arms_of_means (hx : x.Faithful) {arms : Arms} {subject : Option Value} {v : Value}
    (h : arms.Means c subject v) : arms.eval x c subject = .ok v := by
  cases h with
  | done => rfl
  | otherwise h => exact eval_of_means hx h
  | hit hcondition hhit h =>
    rw [eval_arm, eval_of_means hx hcondition]
    exact (if_pos hhit).trans (eval_of_means hx h)
  | miss hcondition hmiss h =>
    rw [eval_arm, eval_of_means hx hcondition]
    exact (if_neg hmiss).trans (eval_arms_of_means hx h)

end

mutual

/-- The error of an operand is the one that halts it. -/
theorem halts_of_eval (hx : x.Faithful) {e : RunError} : (o : Operand) → AllValid o.extractions →
    o.eval x c = .error e → ∃ error, e = .operator error ∧ o.Halts c error
  | .literal _, _, h | .column _, _, h | .field _, _, h | .property _, _, h => by cases h
  | .extract _, hvalid, h => by
    -- What can be read does not fail.
    obtain ⟨f, hf, hinvalid, _⟩ := extract_eq_error h
    exact absurd (hvalid _ List.mem_cons_self f hf) hinvalid
  | .simpleCase subject arms, hvalid, h => by
    rw [Operand.extractions, allValid_append] at hvalid
    unfold Operand.eval at h
    rcases Except.bind_eq_error.mp h with h | ⟨s, hs, h⟩
    · obtain ⟨error, rfl, hhalts⟩ := halts_of_eval hx subject hvalid.1 h
      exact ⟨error, rfl, .subject hhalts⟩
    · obtain ⟨error, rfl, hhalts⟩ := halts_of_eval_arms hx arms hvalid.2 h
      exact ⟨error, rfl, .simpleCase (means_of_eval hx subject hs) hhalts⟩
  | .searchedCase arms, hvalid, h => by
    unfold Operand.eval at h
    obtain ⟨error, rfl, hhalts⟩ := halts_of_eval_arms hx arms hvalid h
    exact ⟨error, rfl, .searchedCase hhalts⟩
  | .binary op left right, hvalid, h => by
    rw [Operand.extractions, allValid_append] at hvalid
    cases hop : op.isLogical with
    | false =>
      rw [eval_binary hop] at h
      have hneither : op ≠ .and ∧ op ≠ .or := by
        constructor <;> rintro rfl <;> cases hop
      rcases Except.bind_eq_error.mp h with h | ⟨a, ha, h⟩
      · obtain ⟨error, rfl, hhalts⟩ := halts_of_eval hx left hvalid.1 h
        exact ⟨error, rfl, .left hhalts⟩
      · have hleft := means_of_eval hx left ha
        rcases Except.bind_eq_error.mp h with h | ⟨b, hb, h⟩
        · obtain ⟨error, rfl, hhalts⟩ := halts_of_eval hx right hvalid.2 h
          exact ⟨error, rfl, .right hleft (absurd · hneither.1) (absurd · hneither.2) hhalts⟩
        · obtain ⟨error, herror, rfl⟩ := Except.mapError_eq_error.mp h
          exact ⟨error, rfl, .operator hop hleft (means_of_eval hx right hb) herror⟩
    | true =>
      rcases side_eq_error hop h with h | ⟨a, ha, hand, hor, h⟩
      · obtain ⟨error, rfl, hhalts⟩ := halts_of_eval hx left hvalid.1 h
        exact ⟨error, rfl, .left hhalts⟩
      · obtain ⟨error, rfl, hhalts⟩ := halts_of_eval hx right hvalid.2 h
        exact ⟨error, rfl, .right (means_of_eval hx left ha) (fun h => isTruthy_iff.mp (hand h))
          (fun h => mt isTruthy_iff.mpr (hor h)) hhalts⟩
  | .not o, hvalid, h => by
    rw [eval_not] at h
    obtain ⟨error, rfl, hhalts⟩ := halts_of_eval hx o hvalid (Except.map_eq_error.mp h)
    exact ⟨error, rfl, .not hhalts⟩

theorem halts_of_eval_arms (hx : x.Faithful) {e : RunError} : (arms : Arms) →
    AllValid arms.extractions → {subject : Option Value} → arms.eval x c subject = .error e →
      ∃ error, e = .operator error ∧ arms.Halts c error subject
  | .done, _, _, h => by cases h
  | .otherwise result, hvalid, _, h => by
    obtain ⟨error, rfl, hhalts⟩ := halts_of_eval hx result hvalid h
    exact ⟨error, rfl, .otherwise hhalts⟩
  | .arm condition result rest, hvalid, subject, h => by
    rw [Arms.extractions, allValid_append, allValid_append] at hvalid
    rw [eval_arm] at h
    rcases Except.bind_eq_error.mp h with h | ⟨tested, htested, h⟩
    · obtain ⟨error, rfl, hhalts⟩ := halts_of_eval hx condition hvalid.1.1 h
      exact ⟨error, rfl, .condition hhalts⟩
    · have hcondition := means_of_eval hx condition htested
      split at h
      next hhit =>
        obtain ⟨error, rfl, hhalts⟩ := halts_of_eval hx result hvalid.1.2 h
        exact ⟨error, rfl, .hit hcondition hhit hhalts⟩
      next hmiss =>
        obtain ⟨error, rfl, hhalts⟩ := halts_of_eval_arms hx rest hvalid.2 h
        exact ⟨error, rfl, .miss hcondition hmiss hhalts⟩

end

mutual

/-- What halts an operand is its error. -/
theorem eval_of_halts (hx : x.Faithful) {error : OperatorError} {o : Operand} (h : o.Halts c error) :
    o.eval x c = .error (.operator error) := by
  cases h with
  | @left op left right h =>
    cases hop : op.isLogical with
    | false => rw [eval_binary hop, eval_of_halts hx h]; rfl
    | true =>
      rcases isLogical_iff.mp hop with rfl | rfl
      · rw [eval_and, eval_of_halts hx h]; rfl
      · rw [eval_or, eval_of_halts hx h]; rfl
  | @right op left right a hleft hand hor h =>
    have ha := eval_of_means hx hleft
    cases hop : op.isLogical with
    | false => rw [eval_binary hop, ha, eval_of_halts hx h]; rfl
    | true =>
      rcases isLogical_iff.mp hop with rfl | rfl
      · rw [eval_and, ha, eval_of_halts hx h]
        exact if_pos (isTruthy_iff.mpr (hand rfl))
      · rw [eval_or, ha, eval_of_halts hx h]
        exact if_neg (mt isTruthy_iff.mp (hor rfl))
  | operator hop hleft hright h =>
    rw [eval_binary hop, eval_of_means hx hleft, eval_of_means hx hright]
    exact Except.mapError_eq_error.mpr ⟨error, h, rfl⟩
  | not h => rw [eval_not, eval_of_halts hx h]; rfl
  | subject h =>
    unfold Operand.eval
    rw [eval_of_halts hx h]
    rfl
  | simpleCase hsubject h =>
    unfold Operand.eval
    rw [eval_of_means hx hsubject]
    exact eval_arms_of_halts hx h
  | searchedCase h =>
    unfold Operand.eval
    exact eval_arms_of_halts hx h

theorem eval_arms_of_halts (hx : x.Faithful) {error : OperatorError} {arms : Arms}
    {subject : Option Value} (h : arms.Halts c error subject) :
    arms.eval x c subject = .error (.operator error) := by
  cases h with
  | otherwise h => exact eval_of_halts hx h
  | condition h =>
    rw [eval_arm, eval_of_halts hx h]
    rfl
  | hit hcondition hhit h =>
    rw [eval_arm, eval_of_means hx hcondition]
    exact (if_pos hhit).trans (eval_of_halts hx h)
  | miss hcondition hmiss h =>
    rw [eval_arm, eval_of_means hx hcondition]
    exact (if_neg hmiss).trans (eval_arms_of_halts hx h)

end

end Evaluation

/-! ## 4. Rows -/

/-- Whether a candidate passes a filter. Without a filter each of them does. -/
inductive Candidate.Passes (c : Candidate) : Option Operand → Bool → Prop where
  | unfiltered : Passes c none true
  | kept {condition : Operand} {v : Value} (hv : condition.Means c v) (h : v.Truthy) :
      Passes c (some condition) true
  | dropped {condition : Operand} {v : Value} (hv : condition.Means c v) (h : ¬v.Truthy) :
      Passes c (some condition) false

/-- A candidate fills a row with what projections mean for it. -/
def Candidate.Fills (projections : List Operand) (c : Candidate) (row : List Value) : Prop :=
  List.Forall₂ (Operand.Means c) projections row

/-- A candidate gives a row or is dropped. -/
def Candidate.Settles (filter : Option Operand) (projections : List Operand) (c : Candidate) : Prop :=
  c.Passes filter false ∨ c.Passes filter true ∧ ∃ row, c.Fills projections row

/-- A candidate has an error instead of a row: that of the filter, or of the first projection that is
halted. -/
inductive Candidate.Breaks (c : Candidate) : Option Operand → List Operand → OperatorError → Prop where
  | filter {condition : Operand} {projections : List Operand} {e : OperatorError}
      (h : condition.Halts c e) : Breaks c (some condition) projections e
  | projection {filter : Option Operand} {before after : List Operand} {o : Operand} {row : List Value}
      {e : OperatorError} (hpasses : c.Passes filter true) (hbefore : c.Fills before row)
      (h : o.Halts c e) : Breaks c filter (before ++ o :: after) e

/-- Rows end with an error where candidates should be, or at a candidate. All candidates in front of it
settle. -/
inductive StopsAt (filter : Option Operand) (projections : List Operand) :
    List (Except RunError (List Candidate)) → RunError → Prop where
  | group {css : List (List Candidate)} {after : List (Except RunError (List Candidate))} {e : RunError}
      (hbefore : ∀ c ∈ css.flatten, c.Settles filter projections) :
      StopsAt filter projections (css.map .ok ++ .error e :: after) e
  | candidate {css : List (List Candidate)} {before behind : List Candidate} {c : Candidate}
      {after : List (Except RunError (List Candidate))} {e : OperatorError}
      (hbefore : ∀ c ∈ css.flatten ++ before, c.Settles filter projections)
      (h : c.Breaks filter projections e) :
      StopsAt filter projections (css.map .ok ++ .ok (before ++ c :: behind) :: after) (.operator e)

section Rows

variable {x : Extractor} (hx : x.Faithful) {filter : Option Operand} {projections : List Operand}
  {c : Candidate}

include hx

theorem passes_of_isKept {kept : Bool} (h : c.isKept x filter = .ok kept) : c.Passes filter kept := by
  cases filter with
  | none =>
    cases h
    exact .unfiltered
  | some condition =>
    obtain ⟨v, hv, rfl⟩ := Except.map_eq_ok.mp h
    have hmeans := means_of_eval hx condition hv
    cases htruthy : v.isTruthy with
    | true => exact .kept hmeans (isTruthy_iff.mp htruthy)
    | false => exact .dropped hmeans fun h => by rw [isTruthy_iff.mpr h] at htruthy; cases htruthy

theorem fills_of_gives {row : List Value} (h : c.Gives x projections row) : c.Fills projections row :=
  h.imp fun _ _ => means_of_eval hx _

end Rows

end Quarry
