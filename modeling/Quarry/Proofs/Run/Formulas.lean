import Quarry.Proofs.Except
import Quarry.Proofs.Plan.Shape
import Quarry.Run.Candidate

/-!
# Selectors and patterns

What the selectors and patterns of a select are, and what its extractor holds. An extractor that was
prepared for a select holds all of them, so that no row needs to read one.
-/

namespace Quarry

/-! ## 1. Formulas -/

/-- A selector or a pattern, by its source. -/
inductive Formula where
  | selector (source : String)
  | pattern (source : String)
deriving DecidableEq

/-- Whether a formula can be read. -/
def Formula.IsValid : Formula → Prop
  | .selector source => (Selector.parse? source).isSome
  | .pattern source => (Matcher.compile? source).isSome

instance (f : Formula) : Decidable f.IsValid := by
  cases f <;> exact inferInstanceAs (Decidable (_ = true))

/-- The error of a formula that cannot be read. -/
def Formula.error : Formula → RunError
  | .selector source => .selector source
  | .pattern source => .pattern source

theorem Formula.error_inj {f g : Formula} (h : f.error = g.error) : f = g := by
  cases f <;> cases g <;> cases h <;> rfl

/-- The formulas of an extraction: its selector, and its pattern if it has one. -/
def Extraction.formulas (e : Extraction) : List Formula :=
  .selector e.selector :: e.pattern.toList.map .pattern

/-- A formula stands in an extraction at any place within operands. -/
def MentionedIn (parts : List Operand) (f : Formula) : Prop :=
  ∃ e, .extract e ∈ parts ∧ f ∈ e.formulas

theorem MentionedIn.mono {parts more : List Operand} {f : Formula} (h : MentionedIn parts f)
    (hsub : parts ⊆ more) : MentionedIn more f := by
  obtain ⟨e, he, hf⟩ := h
  exact ⟨e, hsub he, hf⟩

/-- A formula of a select, not of a url query: the selector of its nodes, or one that stands in a
projection or in the filter. -/
def SelectStep.Mentions (q : SelectStep) (f : Formula) : Prop :=
  (∃ nodes, Extractor.nodesOf q.source = some nodes ∧ f = .selector nodes) ∨
    ∃ o ∈ q.operands, MentionedIn o.parts f

/-- The formulas of a select in the order in which they are read. -/
def SelectStep.formulas (q : SelectStep) : List Formula :=
  (Extractor.nodesOf q.source).toList.map .selector ++ q.extractions.flatMap Extraction.formulas

/-- The first formula of a list that cannot be read. -/
def IsFirstInvalid (formulas : List Formula) (f : Formula) : Prop :=
  ∃ before after, formulas = before ++ f :: after ∧ (∀ g ∈ before, g.IsValid) ∧ ¬f.IsValid

/-- A formula of a step, at any depth of its url queries. -/
def Step.Mentions (step : Step) (f : Formula) : Prop := ∃ q ∈ step.selects, q.Mentions f

/-! ## 2. Extractions -/

mutual

/-- The extractions of an operand are those that stand at any place within it. -/
theorem mem_extractions_iff {e : Extraction} :
    (o : Operand) → (e ∈ o.extractions ↔ .extract e ∈ o.parts)
  | .literal _ | .column _ | .field _ | .property _ | .extract _ => by
    simp [Operand.extractions, Operand.parts]
  | .simpleCase subject arms => by
    simp [Operand.extractions, Operand.parts, mem_extractions_iff subject, mem_extractions_arms_iff arms]
  | .searchedCase arms => by
    simp [Operand.extractions, Operand.parts, mem_extractions_arms_iff arms]
  | .binary _ left right => by
    simp [Operand.extractions, Operand.parts, mem_extractions_iff left, mem_extractions_iff right]
  | .not operand => by
    simp [Operand.extractions, Operand.parts, mem_extractions_iff operand]

-- The extractions of branches are likewise those that stand within them.
theorem mem_extractions_arms_iff {e : Extraction} :
    (arms : Arms) → (e ∈ arms.extractions ↔ .extract e ∈ arms.parts)
  | .done => by simp [Arms.extractions, Arms.parts]
  | .otherwise result => by simp [Arms.extractions, Arms.parts, mem_extractions_iff result]
  | .arm condition result rest => by
    simp [Arms.extractions, Arms.parts, mem_extractions_iff condition, mem_extractions_iff result,
      mem_extractions_arms_iff rest]

end

theorem SelectStep.mem_extractions_iff {q : SelectStep} {e : Extraction} :
    e ∈ q.extractions ↔ ∃ o ∈ q.operands, .extract e ∈ o.parts := by
  have hfilter : e ∈ (q.filter.map Operand.extractions).getD [] ↔
      ∃ o ∈ q.filter.toList, .extract e ∈ o.parts := by
    cases q.filter with
    | none => simp
    | some o => simp [Quarry.mem_extractions_iff o]
  rw [SelectStep.extractions, List.mem_append, hfilter, List.mem_flatMap]
  simp only [SelectStep.operands, List.mem_append, or_and_right, exists_or,
    Quarry.mem_extractions_iff]

theorem SelectStep.mem_formulas_iff {q : SelectStep} {f : Formula} : f ∈ q.formulas ↔ q.Mentions f := by
  rw [formulas, List.mem_append, Mentions]
  refine or_congr ?_ ?_
  · simp [eq_comm]
  · rw [List.mem_flatMap]
    simp only [SelectStep.mem_extractions_iff, MentionedIn]
    constructor
    · rintro ⟨e, ⟨o, ho, he⟩, hf⟩
      exact ⟨o, ho, e, he, hf⟩
    · rintro ⟨o, ho, e, he, hf⟩
      exact ⟨e, ⟨o, ho, he⟩, hf⟩

theorem IsFirstInvalid.append_right {l : List Formula} {f : Formula} (h : IsFirstInvalid l f)
    (m : List Formula) : IsFirstInvalid (l ++ m) f := by
  obtain ⟨before, after, rfl, hbefore, hf⟩ := h
  exact ⟨before, after ++ m, by simp, hbefore, hf⟩

theorem IsFirstInvalid.append_left {l m : List Formula} {f : Formula} (h : IsFirstInvalid m f)
    (hl : ∀ g ∈ l, g.IsValid) : IsFirstInvalid (l ++ m) f := by
  obtain ⟨before, after, rfl, hbefore, hf⟩ := h
  exact ⟨l ++ before, after, by simp, List.forall_mem_append.mpr ⟨hl, hbefore⟩, hf⟩

theorem IsFirstInvalid.not_isValid {l : List Formula} {f : Formula} (h : IsFirstInvalid l f) :
    ¬f.IsValid := by
  obtain ⟨_, _, _, _, hf⟩ := h
  exact hf

theorem IsFirstInvalid.mem {l : List Formula} {f : Formula} (h : IsFirstInvalid l f) : f ∈ l := by
  obtain ⟨before, after, rfl, _, _⟩ := h
  exact List.mem_append_right before List.mem_cons_self

/-! ## 3. Extractors -/

namespace Extractor

/-- An extractor holds a formula. -/
def Holds (x : Extractor) : Formula → Prop
  | .selector source => (x.selectors.lookup source).isSome
  | .pattern source => (x.patterns.lookup source).isSome

/-- Each formula that an extractor holds can be read. -/
def Sound (x : Extractor) : Prop := ∀ f, x.Holds f → f.IsValid

theorem Sound.empty : empty.Sound := by
  rintro (source | source) h <;> cases h

/-- An extractor holds what another one holds. -/
def Extends (x y : Extractor) : Prop := ∀ f, x.Holds f → y.Holds f

-- A list of pairs has what was put in front, and what it had before.
theorem lookup_cons_isSome {α : Type} {key source : String} {a : α} {l : List (String × α)} :
    (List.lookup source ((key, a) :: l)).isSome ↔ source = key ∨ (l.lookup source).isSome := by
  rw [List.lookup_cons]
  by_cases h : source = key
  · simp only [h, beq_self_eq_true, Option.isSome_some, true_or]
  · simp only [beq_eq_false_iff_ne.mpr h, h, false_or]

-- A formula that is not held is read, and reading fails exactly for the ones that cannot be read.
theorem selector_eq_ok {x : Extractor} {source : String} {selector : Selector} (hx : x.Sound)
    (h : x.selector source = .ok selector) : (Formula.selector source).IsValid := by
  unfold Extractor.selector readSelector at h
  split at h
  · rename_i hheld
    exact hx (.selector source) (by rw [Holds, hheld]; rfl)
  · split at h
    · rename_i hread
      rw [Formula.IsValid, hread]
      rfl
    · cases h

theorem matcher_eq_ok {x : Extractor} {source : String} {matcher : Matcher} (hx : x.Sound)
    (h : x.matcher source = .ok matcher) : (Formula.pattern source).IsValid := by
  unfold Extractor.matcher readPattern at h
  split at h
  · rename_i hheld
    exact hx (.pattern source) (by rw [Holds, hheld]; rfl)
  · split at h
    · rename_i hread
      rw [Formula.IsValid, hread]
      rfl
    · cases h

theorem selector_eq_error {x : Extractor} {source : String} {e : RunError}
    (h : x.selector source = .error e) : e = (Formula.selector source).error ∧
      ¬(Formula.selector source).IsValid ∧ ¬x.Holds (.selector source) := by
  unfold Extractor.selector readSelector at h
  split at h
  · cases h
  · rename_i hheld
    split at h
    · cases h
    · rename_i hread
      cases h
      exact ⟨rfl, by simp [Formula.IsValid, hread], by simp [Holds, hheld]⟩

theorem matcher_eq_error {x : Extractor} {source : String} {e : RunError}
    (h : x.matcher source = .error e) : e = (Formula.pattern source).error ∧
      ¬(Formula.pattern source).IsValid ∧ ¬x.Holds (.pattern source) := by
  unfold Extractor.matcher readPattern at h
  split at h
  · cases h
  · rename_i hheld
    split at h
    · cases h
    · rename_i hread
      cases h
      exact ⟨rfl, by simp [Formula.IsValid, hread], by simp [Holds, hheld]⟩

/-- An extractor goes on to hold formulas as well, all of which can be read. -/
structure Grows (x y : Extractor) (formulas : List Formula) : Prop where
  keeps : x.Extends y
  holds : ∀ f ∈ formulas, y.Holds f
  sound : x.Sound → y.Sound

theorem Grows.refl (x : Extractor) : x.Grows x [] := ⟨fun _ h => h, nofun, id⟩

theorem Grows.trans {x y z : Extractor} {l m : List Formula} (h : x.Grows y l) (h' : y.Grows z m) :
    x.Grows z (l ++ m) := by
  refine ⟨fun f hf => h'.keeps f (h.keeps f hf), fun f hf => ?_, fun hx => h'.sound (h.sound hx)⟩
  rcases List.mem_append.mp hf with hf | hf
  · exact h'.keeps f (h.holds f hf)
  · exact h'.holds f hf

theorem grows_of_holdSelector {x y : Extractor} {source : String}
    (h : x.holdSelector source = .ok y) : x.Grows y [.selector source] := by
  obtain ⟨selector, hselector, h⟩ := Except.bind_eq_ok.mp h
  cases h
  refine ⟨?_, ?_, ?_⟩
  · rintro (key | key) hf
    · exact lookup_cons_isSome.mpr (Or.inr hf)
    · exact hf
  · intro f hf
    cases List.mem_singleton.mp hf
    exact lookup_cons_isSome.mpr (Or.inl rfl)
  · rintro hx (key | key) hf
    · rcases lookup_cons_isSome.mp hf with rfl | hf
      · exact selector_eq_ok hx hselector
      · exact hx (.selector key) hf
    · exact hx (.pattern key) hf

theorem grows_of_holdPattern {x y : Extractor} {source : String}
    (h : x.holdPattern source = .ok y) : x.Grows y [.pattern source] := by
  obtain ⟨matcher, hmatcher, h⟩ := Except.bind_eq_ok.mp h
  cases h
  refine ⟨?_, ?_, ?_⟩
  · rintro (key | key) hf
    · exact hf
    · exact lookup_cons_isSome.mpr (Or.inr hf)
  · intro f hf
    cases List.mem_singleton.mp hf
    exact lookup_cons_isSome.mpr (Or.inl rfl)
  · rintro hx (key | key) hf
    · exact hx (.selector key) hf
    · rcases lookup_cons_isSome.mp hf with rfl | hf
      · exact matcher_eq_ok hx hmatcher
      · exact hx (.pattern key) hf

theorem grows_of_hold {x y : Extractor} {e : Extraction} (h : x.hold e = .ok y) :
    x.Grows y e.formulas := by
  obtain ⟨x', hselector, h⟩ := Except.bind_eq_ok.mp h
  have hfirst := grows_of_holdSelector hselector
  unfold Extraction.formulas
  cases hpattern : e.pattern with
  | none =>
    simp only [hpattern] at h
    cases h
    exact hfirst
  | some pattern =>
    simp only [hpattern] at h
    exact hfirst.trans (grows_of_holdPattern h)

theorem Grows.valid {x y : Extractor} {l : List Formula} (h : x.Grows y l) (hx : x.Sound) :
    ∀ f ∈ l, f.IsValid := fun f hf => h.sound hx f (h.holds f hf)

theorem isFirstInvalid_of_holdSelector {x : Extractor} {source : String} {e : RunError}
    (h : x.holdSelector source = .error e) :
    ∃ f, IsFirstInvalid [.selector source] f ∧ e = f.error := by
  rcases Except.bind_eq_error.mp h with h | ⟨_, _, h⟩
  · obtain ⟨he, hinvalid, _⟩ := selector_eq_error h
    exact ⟨_, ⟨[], [], rfl, nofun, hinvalid⟩, he⟩
  · cases h

-- Holding fails for the first formula of the extraction that cannot be read.
theorem isFirstInvalid_of_hold {x : Extractor} (hx : x.Sound) {extraction : Extraction} {e : RunError}
    (h : x.hold extraction = .error e) : ∃ f, IsFirstInvalid extraction.formulas f ∧ e = f.error := by
  rcases Except.bind_eq_error.mp h with h | ⟨x', hselector, h⟩
  · obtain ⟨f, hf, he⟩ := isFirstInvalid_of_holdSelector h
    exact ⟨f, hf.append_right _, he⟩
  · cases hpattern : extraction.pattern with
    | none =>
      simp only [hpattern] at h
      cases h
    | some pattern =>
      simp only [hpattern] at h
      rcases Except.bind_eq_error.mp h with h | ⟨_, _, h⟩
      · obtain ⟨he, hinvalid, _⟩ := matcher_eq_error h
        refine ⟨.pattern pattern, ⟨[.selector extraction.selector], [], ?_, ?_, hinvalid⟩, he⟩
        · rw [Extraction.formulas, hpattern]
          rfl
        · exact (grows_of_holdSelector hselector).valid hx
      · cases h

theorem grows_of_foldlM {l : List Extraction} {x y : Extractor} (h : l.foldlM hold x = .ok y) :
    x.Grows y (l.flatMap Extraction.formulas) := by
  induction l generalizing x with
  | nil =>
    cases h
    exact .refl _
  | cons e l ih =>
    rw [List.foldlM_cons] at h
    obtain ⟨x', hx', h⟩ := Except.bind_eq_ok.mp h
    exact (grows_of_hold hx').trans (ih h)

theorem isFirstInvalid_of_foldlM {l : List Extraction} {x : Extractor} (hx : x.Sound) {e : RunError}
    (h : l.foldlM hold x = .error e) :
    ∃ f, IsFirstInvalid (l.flatMap Extraction.formulas) f ∧ e = f.error := by
  induction l generalizing x with
  | nil => cases h
  | cons extraction l ih =>
    rw [List.foldlM_cons] at h
    rw [List.flatMap_cons]
    rcases Except.bind_eq_error.mp h with h | ⟨x', hhold, h⟩
    · obtain ⟨f, hf, he⟩ := isFirstInvalid_of_hold hx h
      exact ⟨f, hf.append_right _, he⟩
    · have hgrows := grows_of_hold hhold
      obtain ⟨f, hf, he⟩ := ih (hgrows.sound hx) h
      exact ⟨f, hf.append_left (hgrows.valid hx), he⟩

/-- An extractor that has each selector and each pattern as reading its source gives it. -/
structure Faithful (x : Extractor) : Prop where
  selector : ∀ source, x.selector source = readSelector source
  matcher : ∀ source, x.matcher source = readPattern source

theorem Faithful.empty : Faithful .empty := ⟨fun _ => rfl, fun _ => rfl⟩

theorem Faithful.holdSelector {x y : Extractor} (hx : x.Faithful) {source : String}
    (h : x.holdSelector source = .ok y) : y.Faithful := by
  obtain ⟨selector, hselector, hy⟩ := Except.bind_eq_ok.mp h
  cases hy
  refine ⟨fun other => ?_, hx.matcher⟩
  by_cases hother : other = source
  · subst hother
    rw [← hx.selector, hselector, Extractor.selector]
    simp
  · rw [← hx.selector, Extractor.selector, Extractor.selector, List.lookup_cons,
      beq_eq_false_iff_ne.mpr hother]

theorem Faithful.holdPattern {x y : Extractor} (hx : x.Faithful) {source : String}
    (h : x.holdPattern source = .ok y) : y.Faithful := by
  obtain ⟨matcher, hmatcher, hy⟩ := Except.bind_eq_ok.mp h
  cases hy
  refine ⟨hx.selector, fun other => ?_⟩
  by_cases hother : other = source
  · subst hother
    rw [← hx.matcher, hmatcher, Extractor.matcher]
    simp
  · rw [← hx.matcher, Extractor.matcher, Extractor.matcher, List.lookup_cons,
      beq_eq_false_iff_ne.mpr hother]

theorem Faithful.hold {x y : Extractor} (hx : x.Faithful) {e : Extraction} (h : x.hold e = .ok y) :
    y.Faithful := by
  obtain ⟨x', hx', h⟩ := Except.bind_eq_ok.mp h
  have hfaithful := hx.holdSelector hx'
  split at h
  · exact hfaithful.holdPattern h
  · cases h
    exact hfaithful

theorem Faithful.foldlM {l : List Extraction} {x y : Extractor} (hx : x.Faithful)
    (h : l.foldlM Extractor.hold x = .ok y) : y.Faithful := by
  induction l generalizing x with
  | nil =>
    cases h
    exact hx
  | cons e l ih =>
    rw [List.foldlM_cons] at h
    obtain ⟨x', hx', h⟩ := Except.bind_eq_ok.mp h
    exact ih (hx.hold hx') h

/-! ## 4. Preparing -/

-- What stands in the place of the extractor before the extractions.
theorem prepare_eq (q : SelectStep) :
    prepare q = ((match nodesOf q.source with
      | some nodes => empty.holdSelector nodes
      | none => pure empty) >>= fun x => q.extractions.foldlM hold x) := by
  unfold prepare
  cases nodesOf q.source <;> rfl

/-- An extractor that was prepared for a select holds each formula of it, and each can be read. -/
theorem prepare_eq_ok {q : SelectStep} {x : Extractor} (h : prepare q = .ok x) :
    x.Sound ∧ ∀ f, q.Mentions f → x.Holds f := by
  rw [prepare_eq] at h
  obtain ⟨x₀, hx₀, h⟩ := Except.bind_eq_ok.mp h
  have hgrows := grows_of_foldlM h
  have hstart : x₀.Sound ∧ ∀ nodes, nodesOf q.source = some nodes → x₀.Holds (.selector nodes) := by
    cases hnodes : nodesOf q.source with
    | none =>
      simp only [hnodes] at hx₀
      cases hx₀
      exact ⟨Sound.empty, nofun⟩
    | some nodes =>
      simp only [hnodes] at hx₀
      have hfirst := grows_of_holdSelector hx₀
      refine ⟨hfirst.sound Sound.empty, ?_⟩
      rintro _ ⟨⟩
      exact hfirst.holds _ List.mem_cons_self
  refine ⟨hgrows.sound hstart.1, ?_⟩
  rintro f (⟨nodes, hnodes, rfl⟩ | ⟨o, ho, e, he, hf⟩)
  · exact hgrows.keeps _ (hstart.2 nodes hnodes)
  · have hmem : e ∈ q.extractions := SelectStep.mem_extractions_iff.mpr ⟨o, ho, he⟩
    exact hgrows.holds f (List.mem_flatMap.mpr ⟨e, hmem, hf⟩)

theorem faithful_of_prepare {q : SelectStep} {x : Extractor} (h : prepare q = .ok x) : x.Faithful := by
  rw [prepare_eq] at h
  obtain ⟨x₀, hx₀, h⟩ := Except.bind_eq_ok.mp h
  refine Faithful.foldlM ?_ h
  split at hx₀
  · exact Faithful.empty.holdSelector hx₀
  · cases hx₀
    exact Faithful.empty

/-- Every formula of a select that was prepared can be read. -/
theorem valid_of_prepare {q : SelectStep} {x : Extractor} (h : prepare q = .ok x) :
    ∀ f ∈ q.formulas, f.IsValid := by
  obtain ⟨hsound, hholds⟩ := prepare_eq_ok h
  exact fun f hf => hsound f (hholds f (SelectStep.mem_formulas_iff.mp hf))

/-- Preparing fails for the first formula of the select that cannot be read. -/
theorem isFirstInvalid_of_prepare {q : SelectStep} {e : RunError} (h : prepare q = .error e) :
    ∃ f, IsFirstInvalid q.formulas f ∧ e = f.error := by
  rw [prepare_eq] at h
  unfold SelectStep.formulas
  rcases Except.bind_eq_error.mp h with h | ⟨x, hx, h⟩
  · cases hnodes : nodesOf q.source with
    | none =>
      simp only [hnodes] at h
      cases h
    | some nodes =>
      simp only [hnodes] at h
      obtain ⟨f, hf, he⟩ := isFirstInvalid_of_holdSelector h
      exact ⟨f, hf.append_right _, he⟩
  · cases hnodes : nodesOf q.source with
    | none =>
      simp only [hnodes] at hx
      cases hx
      exact isFirstInvalid_of_foldlM Sound.empty h
    | some nodes =>
      simp only [hnodes] at hx
      have hgrows := grows_of_holdSelector hx
      obtain ⟨f, hf, he⟩ := isFirstInvalid_of_foldlM (hgrows.sound Sound.empty) h
      exact ⟨f, hf.append_left (hgrows.valid Sound.empty), he⟩

theorem prepare_eq_error {q : SelectStep} {e : RunError} (h : prepare q = .error e) :
    ∃ f, q.Mentions f ∧ ¬f.IsValid ∧ e = f.error := by
  obtain ⟨f, hf, he⟩ := isFirstInvalid_of_prepare h
  exact ⟨f, SelectStep.mem_formulas_iff.mp hf.mem, hf.not_isValid, he⟩

end Extractor

end Quarry
