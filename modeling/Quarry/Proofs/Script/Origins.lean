import Quarry.Analysis.Settled
import Quarry.Proofs.Script.Printing
import Quarry.Proofs.Script.Shape

/-!
# Origins of what was read

The places in a program are those of lexemes that spell it. A part of an expression has the place of its
first token, and an operation that of its operator, which stands between its operands.
-/

namespace Quarry.Script

/-! ## 1. Definitions -/

/-- The operator stands at the place, right between lexemes that spell its operands. A sign, which is
subtracted from zero, stands right in front of its operand. -/
inductive StandsAt (ls : List Lexeme) : Operator → Expr → Expr → Position → Prop where
  | between {l : Lexeme} {op : Operator} {left right : Expr} {ts us : List Lexeme}
      (hl : l.token = .ofOperator op) (hleft : (Phrase.expr (Level.ofOperator op).front left).Spelled ts)
      (hright : (Phrase.expr (Level.ofOperator op).next right).Spelled us)
      (hwithin : ts ++ l :: us <:+: ls) : StandsAt ls op left right l.position
  | sign {l : Lexeme} {operand : Expr} {us : List Lexeme} (hl : l.token = .minus)
      (hoperand : (Phrase.expr .primary operand).Spelled us) (hwithin : l :: us <:+: ls) :
      StandsAt ls .subtract (.literal (.integer 0)) operand l.position

/-- The expression, apart from its parts, has the place of one of the lexemes: that of its own token. -/
def Expr.StandsIn (ls : List Lexeme) : Expr → Prop
  | .literal _ | .not _ => True
  | .column name position => ⟨.identifier name, position⟩ ∈ ls
  | .pick _ position => ⟨.pick, position⟩ ∈ ls
  | .simpleCase _ _ position | .searchedCase _ position => ⟨.case, position⟩ ∈ ls
  | .binary op left right position => StandsAt ls op left right position

/-- The parts of a phrase have places of its lexemes. Those of a tail have places of the lexemes in front as
well. -/
def Phrase.StandsIn (ls : List Lexeme) : Phrase → Prop
  | .expr _ e => ∀ x ∈ e.parts, x.StandsIn ls
  | .branches b => ∀ x ∈ b.parts, x.StandsIn ls
  | .tail level left whole => level.isChain → ∀ us, (Phrase.expr level left).Spelled us →
      (∀ x ∈ left.parts, x.StandsIn us) → ∀ x ∈ whole.parts, x.StandsIn (us ++ ls)

/-- The select, apart from its url query, has places of the lexemes. -/
structure Select.StandsIn (ls : List Lexeme) (q : Select Unit) : Prop where
  start : ⟨.select, q.position⟩ ∈ ls
  buffer : ∀ name position, q.source = .buffer name position → ⟨.identifier name, position⟩ ∈ ls
  urls : ∀ kind urls hints position, q.source = .downloadEach kind urls hints position →
    ⟨.select, urls.position⟩ ∈ ls
  star : ∀ position, .star position ∈ q.projections → ⟨.star, position⟩ ∈ ls
  thread : ∀ count position, .thread count position ∈ downloadHints q.source ++ q.hints →
    ∃ word, ⟨word, position⟩ ∈ ls ∧ word.isWord "thread"
  expressions : ∀ e ∈ q.expressions, ∀ x ∈ e.parts, x.StandsIn ls

/-- The statement and its selects have places of the lexemes. -/
def Statement.StandsIn (ls : List Lexeme) : Statement Unit → Prop
  | .createBuffer _ columns position =>
    ⟨.create, position⟩ ∈ ls ∧ ∀ d ∈ columns, ⟨.identifier d.name, d.position⟩ ∈ ls
  | .insert _ _ query position => ⟨.insert, position⟩ ∈ ls ∧ ∀ q ∈ query.selects, q.StandsIn ls
  | .select query => ∀ q ∈ query.selects, q.StandsIn ls

variable {ls us ts : List Lexeme}

/-! ## 2. Expressions -/

theorem Level.eq_of_op? {level : Level} {t : Token} {op : Operator} (h : level.op? t = some op) :
    level = .ofOperator op ∧ t = .ofOperator op := by
  cases level <;> cases t <;> cases h <;> exact ⟨rfl, rfl⟩

theorem Lexeme.mem_of_token {l : Lexeme} {t : Token} (hl : l.token = t) (h : l ∈ ls) :
    ⟨t, l.position⟩ ∈ ls := hl ▸ h

theorem StandsAt.mono {op : Operator} {left right : Expr} {position : Position}
    (h : StandsAt us op left right position) (hwithin : us <:+: ls) :
    StandsAt ls op left right position := by
  cases h with
  | between hl hleft hright hinner => exact .between hl hleft hright (hinner.trans hwithin)
  | sign hl hoperand hinner => exact .sign hl hoperand (hinner.trans hwithin)

theorem Expr.StandsIn.mono {e : Expr} (h : e.StandsIn us) (hwithin : us <:+: ls) : e.StandsIn ls := by
  cases e with
  | literal _ | not _ => trivial
  | column _ _ | pick _ _ | simpleCase _ _ _ | searchedCase _ _ => exact hwithin.subset h
  | binary op left right position => exact StandsAt.mono h hwithin

theorem standsIn_mono {es : List Expr} (h : ∀ x ∈ es, x.StandsIn us) (hwithin : us <:+: ls) :
    ∀ x ∈ es, x.StandsIn ls := fun x hx => (h x hx).mono hwithin

-- A number takes the sign, and anything else is subtracted.
theorem negate_cases (position : Position) (e : Expr) : (∃ v, Parser.negate position e = .literal v) ∨
    Parser.negate position e = .binary .subtract (.literal (.integer 0)) e position := by
  cases e with
  | literal v =>
    cases v with
    | integer n | float x => exact .inl ⟨_, rfl⟩
    | _ => exact .inr rfl
  | _ => exact .inr rfl

/-- Operators of a chain stand between what is on their left and what is on their right. -/
theorem standsAt_of_op? {level : Level} {l : Lexeme} {op : Operator} {left right : Expr}
    (hlevel : level.isChain) (hop : level.op? l.token = some op)
    (hleft : (Phrase.expr level left).Spelled us) (hright : (Phrase.expr level.next right).Spelled ts) :
    StandsAt (us ++ l :: ts) op left right l.position := by
  obtain ⟨rfl, hl⟩ := Level.eq_of_op? hop
  refine .between hl ?_ hright List.infix_rfl
  rwa [Level.front, if_pos hlevel]

theorem Phrase.Spelled.standsIn {p : Phrase} (h : p.Spelled ts) : p.StandsIn ts := by
  induction h with
  | literal hl => exact List.forall_mem_singleton.mpr trivial
  | column hl => exact List.forall_mem_singleton.mpr (Lexeme.mem_of_token hl List.mem_cons_self)
  | pick hl hp => exact List.forall_mem_singleton.mpr (Lexeme.mem_of_token hl List.mem_cons_self)
  | @simpleCase l subject b ts ts' hl hsubject hb hcondition ihsubject ihb =>
    refine List.forall_mem_cons.mpr ⟨Lexeme.mem_of_token hl List.mem_cons_self, ?_⟩
    exact List.forall_mem_append.mpr ⟨standsIn_mono ihsubject ⟨[l], ts', rfl⟩,
      standsIn_mono ihb ⟨l :: ts, [], List.append_nil _⟩⟩
  | @searchedCase l b ts hl hb hcondition ih =>
    refine List.forall_mem_cons.mpr ⟨Lexeme.mem_of_token hl List.mem_cons_self, ?_⟩
    exact standsIn_mono ih (List.infix_cons List.infix_rfl)
  | @parens l r e ts hl he hr ih => exact standsIn_mono ih ⟨[l], [r], rfl⟩
  | @minus l e ts hl he ih =>
    have hwithin : ts <:+: l :: ts := List.infix_cons List.infix_rfl
    rcases negate_cases l.position e with ⟨v, hv⟩ | hnegate
    · rw [hv]
      exact List.forall_mem_singleton.mpr trivial
    · rw [hnegate]
      refine List.forall_mem_cons.mpr ⟨.sign hl he List.infix_rfl, ?_⟩
      exact List.forall_mem_cons.mpr ⟨trivial, standsIn_mono ih hwithin⟩
  | loose hlevel he ih => exact ih
  | @not l e ts hl he ih =>
    exact List.forall_mem_cons.mpr ⟨trivial, standsIn_mono ih (List.infix_cons List.infix_rfl)⟩
  | @comparison l op left right ts ts' hleft hop hright ihleft ihright =>
    have hlevelOp : Level.comparison.op? l.token = some op := hop
    obtain ⟨hlevel, hl⟩ := Level.eq_of_op? hlevelOp
    refine List.forall_mem_cons.mpr ⟨.between hl (hlevel ▸ hleft) (hlevel ▸ hright) List.infix_rfl, ?_⟩
    exact List.forall_mem_append.mpr ⟨standsIn_mono ihleft ⟨[], l :: ts', rfl⟩,
      standsIn_mono ihright ⟨ts ++ [l], [], by simp⟩⟩
  | @chain level first whole ts ts' hlevel hfirst htail ihfirst ihtail =>
    exact ihtail hlevel ts (.of_next hfirst) ihfirst
  | stop =>
    intro _ us _ hleft
    rwa [List.append_nil]
  | @step level l op left right whole ts ts' hop hright htail ihright ihtail =>
    -- What is on the left of the rest is the operation, which is spelled by all lexemes so far.
    intro hlevel us hus hleft
    have hparts : ∀ x ∈ (Expr.binary op left right l.position).parts, x.StandsIn (us ++ l :: ts) := by
      refine List.forall_mem_cons.mpr ⟨standsAt_of_op? hlevel hop hus hright, ?_⟩
      exact List.forall_mem_append.mpr ⟨standsIn_mono hleft ⟨[], l :: ts, rfl⟩,
        standsIn_mono ihright ⟨us ++ [l], [], by simp⟩⟩
    have hwhole := ihtail hlevel _ (hus.snoc hlevel hop hright) hparts
    rwa [List.append_assoc] at hwhole
  | done hl => exact List.forall_mem_nil _
  | @otherwise l r e ts hl he hr ih => exact standsIn_mono ih ⟨[l], [r], rfl⟩
  | @branch l m condition result b ts ts' ts'' hl hcondition hm hresult hb ihcondition ihresult ihb =>
    refine List.forall_mem_append.mpr ⟨List.forall_mem_append.mpr ⟨?_, ?_⟩, ?_⟩
    · exact standsIn_mono ihcondition ⟨[l], m :: (ts' ++ ts''), rfl⟩
    · exact standsIn_mono ihresult ⟨l :: (ts ++ [m]), ts'', by simp⟩
    · exact standsIn_mono ihb ⟨l :: (ts ++ m :: ts'), [], by simp⟩

/-! ## 3. Selects -/

section Pieces

variable {α : Type} {item : α → List Lexeme → Prop} {a : α}

-- An item is spelled by some of the lexemes that spell a list.
theorem Listed.exists_of_mem {as : List α} (h : Listed item as ts) (ha : a ∈ as) :
    ∃ us, us <:+: ts ∧ item a us := by
  induction h with
  | one hitem =>
    obtain rfl := List.mem_singleton.mp ha
    exact ⟨_, List.infix_rfl, hitem⟩
  | @more l _ _ ts ts' hitem _ _ ih =>
    rcases List.mem_cons.mp ha with rfl | ha
    · exact ⟨ts, ⟨[], l :: ts', rfl⟩, hitem⟩
    · obtain ⟨us, hus, hitem⟩ := ih ha
      exact ⟨us, hus.trans ⟨ts ++ [l], [], by simp⟩, hitem⟩

theorem Optionally.exists_of_some {keyword : Token} (h : Optionally keyword item (Option.some a) ts) :
    ∃ us, us <:+: ts ∧ item a us := by
  cases h with
  | some hl ha => exact ⟨_, List.infix_cons List.infix_rfl, ha⟩

theorem Enclosed.exists (h : Enclosed item a ts) : ∃ us, us <:+: ts ∧ item a us := by
  cases h with
  | bare ha => exact ⟨_, List.infix_rfl, ha⟩
  | @parens l r _ ts hl ha hr => exact ⟨ts, ⟨[l], [r], rfl⟩, ha⟩

end Pieces

theorem HintsSpelled.exists_of_mem {hints : List Hint} (h : HintsSpelled hints ts) {hint : Hint}
    (hmem : hint ∈ hints) : ∃ us, us <:+: ts ∧ hint.Spelled us := by
  induction h with
  | none => cases hmem
  | @clause l hints more ts ts' hl hhints hmore ih =>
    rcases List.mem_append.mp hmem with hmem | hmem
    · obtain ⟨us, hus, hlisted⟩ := hhints.exists
      obtain ⟨vs, hvs, hhint⟩ := hlisted.exists_of_mem hmem
      exact ⟨vs, hvs.trans (hus.trans ⟨[l], ts', rfl⟩), hhint⟩
    · obtain ⟨us, hus, hhint⟩ := ih hmem
      exact ⟨us, hus.trans ⟨l :: ts, [], List.append_nil _⟩, hhint⟩

theorem HintsSpelled.thread {hints : List Hint} (h : HintsSpelled hints ts) {count : Int64}
    {position : Position} (hmem : .thread count position ∈ hints) :
    ∃ word, ⟨word, position⟩ ∈ ts ∧ word.isWord "thread" := by
  obtain ⟨us, hus, hhint⟩ := h.exists_of_mem hmem
  cases hhint with
  | thread hl hcount => exact ⟨_, hus.subset List.mem_cons_self, hl⟩

theorem Select.StandsIn.mono {q : Select Unit} (h : q.StandsIn us) (hwithin : us <:+: ls) :
    q.StandsIn ls where
  start := hwithin.subset h.start
  buffer name position hsource := hwithin.subset (h.buffer name position hsource)
  urls kind urls hints position hsource := hwithin.subset (h.urls kind urls hints position hsource)
  star position hstar := hwithin.subset (h.star position hstar)
  thread count position hhint := by
    obtain ⟨word, hmem, hword⟩ := h.thread count position hhint
    exact ⟨word, hwithin.subset hmem, hword⟩
  expressions e he := standsIn_mono (h.expressions e he) hwithin

-- The hints of a source are spelled behind it.
theorem Source.Spelled.thread {source : Source Unit} (h : source.Spelled ts) {count : Int64}
    {position : Position} (hmem : .thread count position ∈ downloadHints source) :
    ∃ word, ⟨word, position⟩ ∈ ts ∧ word.isWord "thread" := by
  cases h with
  | nothing | buffer _ _ => cases hmem
  | download _ _ _ _ hhints =>
    obtain ⟨word, hmem, hword⟩ := hhints.thread hmem
    exact ⟨word, by simp [hmem], hword⟩
  | downloadEach _ _ _ _ _ _ hhints =>
    obtain ⟨word, hmem, hword⟩ := hhints.thread hmem
    exact ⟨word, by simp [hmem], hword⟩

theorem Select.Spelled.expressions {q : Select Unit} (h : q.Spelled ts) :
    ∀ e ∈ q.expressions, ∃ us, us <:+: ts ∧ e.Spelled us := by
  cases h with
  | @intro l projections source filter hints ts ts₁ ts₂ ts₃ hl hprojections hsource hfilter hhints hfollow =>
    refine List.forall_mem_append.mpr ⟨fun e he => ?_, fun e he => ?_⟩
    · obtain ⟨p, hp, hexpr⟩ := List.mem_filterMap.mp he
      obtain ⟨us, hus, hspelled⟩ := hprojections.exists_of_mem hp
      have hwithin : us <:+: l :: (ts ++ (ts₁ ++ (ts₂ ++ ts₃))) := hus.trans ⟨[l], ts₁ ++ (ts₂ ++ ts₃), rfl⟩
      cases hspelled with
      | star _ => cases hexpr
      | item he hlabel =>
        cases hexpr
        exact ⟨_, (List.prefix_append _ _).isInfix.trans hwithin, he⟩
    · obtain rfl : filter = some e := Option.mem_toList.mp he
      obtain ⟨us, hus, hspelled⟩ := hfilter.exists_of_some
      exact ⟨us, hus.trans ⟨l :: (ts ++ ts₁), ts₃, by simp⟩, hspelled⟩

theorem Select.Spelled.start_mem {q : Select Unit} (h : q.Spelled ts) : ⟨.select, q.position⟩ ∈ ts := by
  cases h with
  | intro hl _ _ _ _ _ => exact Lexeme.mem_of_token hl List.mem_cons_self

-- The select itself, without its url query.
theorem Select.Spelled.self_standsIn {q : Select Unit} (h : q.Spelled ts) : q.StandsIn ts where
  start := h.start_mem
  buffer := by
    rintro name position hsource
    cases h with
    | intro _ _ hspelled _ _ _ =>
      obtain rfl := hsource
      cases hspelled with
      | buffer _ hl => exact Lexeme.mem_of_token hl (by simp)
  urls := by
    rintro kind urls hints position hsource
    cases h with
    | intro _ _ hspelled _ _ _ =>
      obtain rfl := hsource
      cases hspelled with
      | downloadEach _ _ _ _ hurls _ _ => simp [hurls.start_mem]
  star := by
    rintro position hstar
    cases h with
    | intro _ hprojections _ _ _ _ =>
      obtain ⟨us, hus, hspelled⟩ := hprojections.exists_of_mem hstar
      cases hspelled with
      | star hl =>
        have hmem := hus.subset (List.mem_singleton_self _)
        exact Lexeme.mem_of_token hl (by simp [hmem])
  thread := by
    rintro count position hhint
    cases h with
    | intro _ _ hsource _ hhints _ =>
      rcases List.mem_append.mp hhint with hhint | hhint
      · obtain ⟨word, hmem, hword⟩ := hsource.thread hhint
        exact ⟨word, by simp [hmem], hword⟩
      · obtain ⟨word, hmem, hword⟩ := hhints.thread hhint
        exact ⟨word, by simp [hmem], hword⟩
  expressions e he := by
    obtain ⟨us, hus, hspelled⟩ := h.expressions e he
    exact standsIn_mono (Phrase.Spelled.standsIn hspelled) hus

mutual

/-- A select and its url queries have places of the lexemes that spell it. -/
theorem Select.Spelled.standsIn : {q : Select Unit} → {ts : List Lexeme} → q.Spelled ts →
    ∀ q' ∈ q.selects, q'.StandsIn ts
  | ⟨projections, source, filter, hints, position, note⟩, ts, h => by
    rw [Select.selects]
    refine List.forall_mem_cons.mpr ⟨h.self_standsIn, fun q' hq' => ?_⟩
    cases h with
    | @intro l _ _ _ _ ts ts₁ ts₂ ts₃ _ _ hsource _ _ _ =>
      exact (hsource.standsIn q' hq').mono ⟨l :: ts, ts₂ ++ ts₃, by simp⟩

theorem Source.Spelled.standsIn : {source : Source Unit} → {ts : List Lexeme} → source.Spelled ts →
    ∀ q ∈ source.selects, q.StandsIn ts
  | .nothing, _, _ | .buffer _ _, _, _ | .download _ _ _ _, _, _ => nofun
  | .downloadEach kind urls hints position, _, h => fun q hq => by
    cases h with
    | @downloadEach f l k p r _ _ _ ts ts' _ _ _ _ hurls _ _ =>
      exact (hurls.standsIn q hq).mono ⟨[f, l, k, p], r :: ts', by simp⟩

end

/-! ## 4. Programs -/

theorem Statement.Spelled.standsIn {st : Statement Unit} (h : st.Spelled ts) : st.StandsIn ts := by
  cases h with
  | @createBuffer l b p r name columns ts ts' hl _ _ _ hcolumns _ =>
    refine ⟨Lexeme.mem_of_token hl List.mem_cons_self, fun d hd => ?_⟩
    obtain ⟨us, hus, hspelled⟩ := hcolumns.exists_of_mem hd
    have hwithin : us <:+: l :: b :: (ts ++ p :: (ts' ++ [r])) :=
      hus.trans ⟨l :: b :: (ts ++ [p]), [r], by simp⟩
    cases hspelled with
    | plain hl _ | identity hl _ _ =>
      exact Lexeme.mem_of_token hl (hwithin.subset List.mem_cons_self)
  | @insert l i target columns select ts ts' ts'' hl _ _ _ hselect =>
    refine ⟨Lexeme.mem_of_token hl List.mem_cons_self, fun q hq => ?_⟩
    exact (hselect.standsIn q hq).mono ⟨l :: i :: (ts ++ ts'), [], by simp⟩
  | select hselect => exact hselect.standsIn

theorem Statement.StandsIn.mono {st : Statement Unit} (h : st.StandsIn us) (hwithin : us <:+: ls) :
    st.StandsIn ls := by
  cases st with
  | createBuffer name columns position =>
    exact ⟨hwithin.subset h.1, fun d hd => hwithin.subset (h.2 d hd)⟩
  | insert target columns query position =>
    exact ⟨hwithin.subset h.1, fun q hq => (h.2 q hq).mono hwithin⟩
  | select query => exact fun q hq => (h q hq).mono hwithin

/-- The statements of a program have places of the lexemes that spell it. -/
theorem Program.Spelled.standsIn {p : Program Unit} (h : Program.Spelled p ts) :
    ∀ st ∈ p, st.StandsIn ts := by
  induction h with
  | nil => nofun
  | semicolon _ _ ih => exact fun st hst => (ih st hst).mono (List.infix_cons List.infix_rfl)
  | @statement s p ts ts' hs _ ih =>
    refine List.forall_mem_cons.mpr ⟨hs.standsIn.mono ⟨[], ts', rfl⟩, fun st hst => ?_⟩
    exact (ih st hst).mono (List.suffix_append ts ts').isInfix

end Quarry.Script
