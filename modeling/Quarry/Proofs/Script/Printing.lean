import Quarry.Proofs.Script.Printer

/-!
# What is printed

Lexemes with the tokens of a printed program spell that program, up to the places of its parts, wherever
they stand.
-/

namespace Quarry.Script

/-! ## 1. Levels -/

theorem Level.rank_next {level : Level} (h : level ≠ .primary) : level.next.rank = level.rank + 1 := by
  cases level <;> first | rfl | exact absurd rfl h

theorem Level.rank_inj {level level' : Level} (h : level.rank = level'.rank) : level = level' := by
  cases level <;> cases level' <;> first | rfl | cases h

theorem Level.ofOperator_op? (op : Operator) :
    (Level.ofOperator op).op? (Token.ofOperator op) = some op := by
  cases op <;> rfl

-- What binds as tight as an operand of a level is one of the level.
theorem Phrase.Spelled.of_next {level : Level} {e : Expr} {ts : List Lexeme}
    (h : (Phrase.expr level.next e).Spelled ts) : (Phrase.expr level e).Spelled ts := by
  cases level with
  | primary => exact h
  | not | comparison => exact .loose rfl h
  | or | and | sum | product =>
    have hchain := Phrase.Spelled.chain rfl h .stop
    rwa [List.append_nil] at hchain

-- What binds tight may stand where less is needed.
theorem Phrase.Spelled.loosen {need level : Level} {e : Expr} {ts : List Lexeme}
    (h : (Phrase.expr level e).Spelled ts) (hle : need.rank ≤ level.rank) :
    (Phrase.expr need e).Spelled ts := by
  obtain ⟨n, hn⟩ := Nat.exists_eq_add_of_le hle
  induction n generalizing need with
  | zero => exact Level.rank_inj hn ▸ h
  | succ n ih =>
    have hne : need ≠ .primary := by
      rintro rfl
      have hmax : level.rank ≤ Level.primary.rank := by cases level <;> decide
      omega
    have hnext := Level.rank_next hne
    exact .of_next (ih (by omega) (by omega))

-- One more operator of a level and its operand, behind a tail of the level.
theorem Phrase.Spelled.tail_snoc {level : Level} {op : Operator} {l : Lexeme}
    {first whole right : Expr} {ts us : List Lexeme}
    (h : (Phrase.tail level first whole).Spelled ts) (hop : level.op? l.token = some op)
    (hright : (Phrase.expr level.next right).Spelled us) :
    (Phrase.tail level first (.binary op whole right l.position)).Spelled (ts ++ l :: us) := by
  generalize hp : Phrase.tail level first whole = p at h
  induction h generalizing first with
  | stop =>
    cases hp
    have hstep : (Phrase.tail level whole (.binary op whole right l.position)).Spelled
      (l :: (us ++ [])) := .step hop hright .stop
    rwa [List.append_nil] at hstep
  | step hop' hright' _ _ ih =>
    cases hp
    rw [List.cons_append, List.append_assoc]
    exact .step hop' hright' (ih rfl)
  | _ => cases hp

/-- Operators of a chain associate to the left. -/
theorem Phrase.Spelled.snoc {level : Level} (hlevel : level.isChain) {op : Operator} {l : Lexeme}
    {left right : Expr} {ts us : List Lexeme} (hleft : (Phrase.expr level left).Spelled ts)
    (hop : level.op? l.token = some op) (hright : (Phrase.expr level.next right).Spelled us) :
    (Phrase.expr level (.binary op left right l.position)).Spelled (ts ++ l :: us) := by
  cases hleft with
  | chain _ hfirst htail =>
    rw [List.append_assoc]
    exact .chain hlevel hfirst (htail.tail_snoc hop hright)
  | @loose level _ _ hloose _ =>
    cases level with
    | or | and | sum | product => cases hloose
    | not | comparison | primary => cases hlevel
  | _ => cases hlevel

/-- An operator between what its operands need. -/
theorem Phrase.Spelled.binary {op : Operator} {l : Lexeme} (hl : l.token = .ofOperator op)
    {left right : Expr} {ts us : List Lexeme}
    (hleft : (Phrase.expr (Level.ofOperator op).front left).Spelled ts)
    (hright : (Phrase.expr (Level.ofOperator op).next right).Spelled us) :
    (Phrase.expr (Level.ofOperator op) (.binary op left right l.position)).Spelled
      (ts ++ l :: us) := by
  have hop : (Level.ofOperator op).op? l.token = some op := hl ▸ Level.ofOperator_op? op
  rw [Level.front] at hleft
  by_cases hchain : (Level.ofOperator op).isChain
  · rw [if_pos hchain] at hleft
    exact hleft.snoc hchain hop hright
  · rw [if_neg hchain] at hleft
    have hcomparison : Level.ofOperator op = .comparison := by
      cases op <;> first | rfl | exact absurd rfl hchain
    rw [hcomparison] at hleft hop hright ⊢
    exact .comparison hleft hop hright

/-! ## 2. Pieces -/

/-- Whatever lexemes have the tokens, they spell the thing, up to places. -/
def Prints {α : Type} (spelled : α → List Lexeme → Prop) (unplaced : α → α) (a : α)
    (ts : List Token) : Prop :=
  ∀ ls : List Lexeme, ls.map Lexeme.token = ts → ∃ b, spelled b ls ∧ unplaced b = unplaced a

section Pieces

variable {α : Type} {spelled : α → List Lexeme → Prop} {unplaced : α → α}

theorem prints_name (name : String) : Prints NameSpelled id name (printName name) := by
  intro ls h
  obtain ⟨l, us, rfl, hl, hus⟩ := List.map_eq_cons_iff.mp h
  cases List.map_eq_nil_iff.mp hus
  exact ⟨name, .intro hl, rfl⟩

theorem prints_text (text : String) : Prints TextSpelled id text (printText text) := by
  intro ls h
  obtain ⟨l, us, rfl, hl, hus⟩ := List.map_eq_cons_iff.mp h
  cases List.map_eq_nil_iff.mp hus
  exact ⟨text, .intro hl, rfl⟩

theorem prints_label (label : String) : Prints LabelSpelled id label (printText label) := by
  intro ls h
  obtain ⟨l, us, rfl, hl, hus⟩ := List.map_eq_cons_iff.mp h
  cases List.map_eq_nil_iff.mp hus
  exact ⟨label, .text hl, rfl⟩

theorem prints_behind {keyword : Token} {print : α → List Token} {o : Option α}
    (h : ∀ a ∈ o, Prints spelled unplaced a (print a)) :
    Prints (Optionally keyword spelled) (Option.map unplaced) o (behind keyword print o) := by
  intro ls htokens
  cases o with
  | none =>
    cases List.map_eq_nil_iff.mp htokens
    exact ⟨none, .none, rfl⟩
  | some a =>
    obtain ⟨l, us, rfl, hl, hus⟩ := List.map_eq_cons_iff.mp htokens
    obtain ⟨b, hb, heq⟩ := h a rfl us hus
    exact ⟨some b, .some hl hb, congrArg some heq⟩

theorem prints_commas {print : α → List Token} {as : List α} (hne : as ≠ [])
    (h : ∀ a ∈ as, Prints spelled unplaced a (print a)) :
    Prints (Listed spelled) (List.map unplaced) as (commas (as.map print)) := by
  induction as with
  | nil => exact absurd rfl hne
  | cons a as ih =>
    intro ls htokens
    rw [List.forall_mem_cons] at h
    cases as with
    | nil =>
      obtain ⟨b, hb, heq⟩ := h.1 ls htokens
      exact ⟨[b], .one hb, congrArg (fun x => [x]) heq⟩
    | cons a' as =>
      obtain ⟨us, vs, rfl, hus, hvs⟩ := List.map_eq_append_iff.mp htokens
      obtain ⟨l, vs, rfl, hl, hvs⟩ := List.map_eq_cons_iff.mp hvs
      obtain ⟨b, hb, heq⟩ := h.1 us hus
      obtain ⟨bs, hbs, heqs⟩ := ih nofun h.2 vs hvs
      exact ⟨b :: bs, .more hb hl hbs, by rw [List.map_cons, List.map_cons, heq, heqs]⟩

end Pieces

-- A word in lower case is itself in any letter case.
theorem isWord_of_identifier {l : Lexeme} {word : String} (hl : l.token = .identifier word)
    (hlower : word.toLower = word) : l.token.isWord word := by
  rw [hl]
  exact beq_iff_eq.mpr hlower

theorem prints_take (t : Take) : Prints Take.Spelled id t t.print := by
  intro ls h
  cases t with
  | text =>
    obtain ⟨l, us, rfl, hl, hus⟩ := List.map_eq_cons_iff.mp h
    cases List.map_eq_nil_iff.mp hus
    exact ⟨_, .text (isWord_of_identifier hl (by decide +kernel)), rfl⟩
  | html =>
    obtain ⟨l, us, rfl, hl, hus⟩ := List.map_eq_cons_iff.mp h
    cases List.map_eq_nil_iff.mp hus
    exact ⟨_, .html (isWord_of_identifier hl (by decide +kernel)), rfl⟩
  | «attribute» name =>
    obtain ⟨l, us, rfl, hl, hus⟩ := List.map_eq_cons_iff.mp h
    obtain ⟨_, hname, rfl⟩ := prints_text name us hus
    exact ⟨_, .attribute (isWord_of_identifier hl (by decide +kernel)) hname, rfl⟩

theorem prints_pick {p : Pick} (h : p.Normal) : Prints Pick.Spelled id p p.print := by
  intro ls htokens
  obtain ⟨us, rest, rfl, hus, hrest⟩ := List.map_eq_append_iff.mp htokens
  obtain ⟨us₁, rest, rfl, hus₁, hrest⟩ := List.map_eq_append_iff.mp hrest
  obtain ⟨us₂, us₃, rfl, hus₂, hus₃⟩ := List.map_eq_append_iff.mp hrest
  obtain ⟨_, hselector, rfl⟩ := prints_text p.selector us hus
  obtain ⟨take, htake, heq₁⟩ := prints_behind (fun t _ => prints_take t) us₁ hus₁
  obtain ⟨pattern, hpattern, heq₂⟩ := prints_behind (fun t _ => prints_text t) us₂ hus₂
  obtain ⟨replace, hreplace, heq₃⟩ := prints_behind (fun t _ => prints_text t) us₃ hus₃
  simp only [Option.map_id, id_eq] at heq₁ heq₂ heq₃
  subst heq₁ heq₂ heq₃
  exact ⟨p, .intro hselector htake hpattern hreplace h, rfl⟩

/-! ## 3. Expressions -/

/-- A printed literal. The minus in front of a number is taken into it. -/
theorem prints_literal {v : Value} (h : NormalLiteral v) :
    Prints (fun e => (Phrase.expr .primary e).Spelled) (Expr.relocate nowhere) (.literal v)
      (printLiteral v) := by
  -- One token is a literal by itself, and a number behind a minus is negated.
  have hone : ∀ {v : Value} {t : Token}, t.literal? = some v →
      Prints (fun e => (Phrase.expr .primary e).Spelled) (Expr.relocate nowhere) (.literal v) [t] := by
    intro v t ht ls htokens
    obtain ⟨l, us, rfl, hl, hus⟩ := List.map_eq_cons_iff.mp htokens
    cases List.map_eq_nil_iff.mp hus
    exact ⟨.literal v, .literal (hl ▸ ht), rfl⟩
  have hminus : ∀ {w : Value} {t : Token}, t.literal? = some w →
      (∀ p, Parser.negate p (.literal w) = .literal v) →
        Prints (fun e => (Phrase.expr .primary e).Spelled) (Expr.relocate nowhere) (.literal v)
          [.minus, t] := by
    intro w t ht hnegate ls htokens
    obtain ⟨l, us, rfl, hl, hus⟩ := List.map_eq_cons_iff.mp htokens
    obtain ⟨m, us, rfl, hm, hus⟩ := List.map_eq_cons_iff.mp hus
    cases List.map_eq_nil_iff.mp hus
    have hspelled := Phrase.Spelled.minus hl (.literal (hm ▸ ht))
    rw [hnegate] at hspelled
    exact ⟨.literal v, hspelled, rfl⟩
  cases v with
  | null | boolean _ | string _ => exact hone rfl
  | integer n =>
    rw [printLiteral]
    split
    · exact hminus rfl fun p => by rw [Parser.negate, Int64.neg_neg]
    · exact hone rfl
  | float x =>
    rw [printLiteral]
    split
    · exact hminus rfl fun p => by rw [Parser.negate, Number.float_neg_neg h]
    · exact hone rfl

/-- Parentheses give an expression the level that its place needs. -/
theorem prints_enclose {need level : Level} {e : Expr} {ts : List Token}
    (h : Prints (fun e => (Phrase.expr level e).Spelled) (Expr.relocate nowhere) e ts) :
    Prints (fun e => (Phrase.expr need e).Spelled) (Expr.relocate nowhere) e
      (need.enclose level ts) := by
  intro ls htokens
  rw [Level.enclose] at htokens
  by_cases hparens : level.rank < need.rank
  · rw [if_pos hparens] at htokens
    obtain ⟨l, rest, rfl, hl, hrest⟩ := List.map_eq_cons_iff.mp htokens
    obtain ⟨us, vs, rfl, hus, hvs⟩ := List.map_eq_append_iff.mp hrest
    obtain ⟨r, vs, rfl, hr, hnil⟩ := List.map_eq_cons_iff.mp hvs
    cases List.map_eq_nil_iff.mp hnil
    obtain ⟨e', he', heq⟩ := h us hus
    have hmax : need.rank ≤ Level.primary.rank := by cases need <;> decide
    exact ⟨e', (Phrase.Spelled.parens hl (he'.loosen (Nat.zero_le _)) hr).loosen hmax, heq⟩
  · rw [if_neg hparens] at htokens
    obtain ⟨e', he', heq⟩ := h ls htokens
    exact ⟨e', he'.loosen (Nat.le_of_not_lt hparens), heq⟩

-- Branches up to places have a condition if the branches have one.
theorem hasCondition_of_relocate_eq {f : Position → Position} {b b' : Branches}
    (h : b'.relocate f = b.relocate f) (hcondition : b.hasCondition) : b'.hasCondition := by
  rw [← Branches.hasCondition_relocate b', h, Branches.hasCondition_relocate]
  exact hcondition

mutual

theorem Expr.prints : (e : Expr) → e.Normal →
    Prints (fun e' => (Phrase.expr e.level e').Spelled) (Expr.relocate nowhere) e e.print
  | .literal _, h => prints_literal h
  | .column name p, _ => by
    intro ls htokens
    obtain ⟨l, rest, rfl, hl, hrest⟩ := List.map_eq_cons_iff.mp htokens
    cases List.map_eq_nil_iff.mp hrest
    exact ⟨_, .column hl, rfl⟩
  | .pick pick p, h => by
    intro ls htokens
    obtain ⟨l, us, rfl, hl, hus⟩ := List.map_eq_cons_iff.mp htokens
    obtain ⟨_, hpick, rfl⟩ := prints_pick h us hus
    exact ⟨_, .pick hl hpick, rfl⟩
  | .simpleCase subject b p, h => by
    intro ls htokens
    obtain ⟨l, rest, rfl, hl, hrest⟩ := List.map_eq_cons_iff.mp htokens
    obtain ⟨us, vs, rfl, hus, hvs⟩ := List.map_eq_append_iff.mp hrest
    obtain ⟨subject', hsubject, heq⟩ := subject.prints h.1 us hus
    obtain ⟨b', hb, heqb⟩ := b.prints h.2.2 vs hvs
    refine ⟨_, .simpleCase hl (hsubject.loosen (Nat.zero_le _)) hb
      (hasCondition_of_relocate_eq heqb h.2.1), ?_⟩
    rw [Expr.relocate, heq, heqb]
    rfl
  | .searchedCase b p, h => by
    intro ls htokens
    obtain ⟨l, us, rfl, hl, hus⟩ := List.map_eq_cons_iff.mp htokens
    obtain ⟨b', hb, heq⟩ := b.prints h.2 us hus
    refine ⟨_, .searchedCase hl hb (hasCondition_of_relocate_eq heq h.1), ?_⟩
    rw [Expr.relocate, heq]
    rfl
  | .binary op left right p, h => by
    intro ls htokens
    obtain ⟨us, rest, rfl, hus, hrest⟩ := List.map_eq_append_iff.mp htokens
    obtain ⟨l, vs, rfl, hl, hvs⟩ := List.map_eq_cons_iff.mp hrest
    obtain ⟨left', hleft, heql⟩ := prints_enclose (left.prints h.1) us hus
    obtain ⟨right', hright, heqr⟩ := prints_enclose (right.prints h.2) vs hvs
    refine ⟨_, .binary hl hleft hright, ?_⟩
    rw [Expr.relocate, heql, heqr]
    rfl
  | .not e, h => by
    intro ls htokens
    obtain ⟨l, us, rfl, hl, hus⟩ := List.map_eq_cons_iff.mp htokens
    obtain ⟨e', he, heq⟩ := prints_enclose (e.prints h) us hus
    exact ⟨_, .not hl he, congrArg Expr.not heq⟩

theorem Branches.prints : (b : Branches) → b.Normal →
    Prints (fun b' => (Phrase.branches b').Spelled) (Branches.relocate nowhere) b b.print
  | .done, _ => by
    intro ls htokens
    obtain ⟨l, rest, rfl, hl, hrest⟩ := List.map_eq_cons_iff.mp htokens
    cases List.map_eq_nil_iff.mp hrest
    exact ⟨_, .done hl, rfl⟩
  | .otherwise e, h => by
    intro ls htokens
    obtain ⟨l, rest, rfl, hl, hrest⟩ := List.map_eq_cons_iff.mp htokens
    obtain ⟨us, vs, rfl, hus, hvs⟩ := List.map_eq_append_iff.mp hrest
    obtain ⟨r, vs, rfl, hr, hnil⟩ := List.map_eq_cons_iff.mp hvs
    cases List.map_eq_nil_iff.mp hnil
    obtain ⟨e', he, heq⟩ := e.prints h us hus
    exact ⟨_, .otherwise hl (he.loosen (Nat.zero_le _)) hr, congrArg Branches.otherwise heq⟩
  | .branch condition result b, h => by
    intro ls htokens
    obtain ⟨l, rest, rfl, hl, hrest⟩ := List.map_eq_cons_iff.mp htokens
    obtain ⟨us, rest, rfl, hus, hrest⟩ := List.map_eq_append_iff.mp hrest
    obtain ⟨m, rest, rfl, hm, hrest⟩ := List.map_eq_cons_iff.mp hrest
    obtain ⟨vs, ws, rfl, hvs, hws⟩ := List.map_eq_append_iff.mp hrest
    obtain ⟨condition', hcondition, heqc⟩ := condition.prints h.1 us hus
    obtain ⟨result', hresult, heqr⟩ := result.prints h.2.1 vs hvs
    obtain ⟨b', hb, heqb⟩ := b.prints h.2.2 ws hws
    refine ⟨_, .branch hl (hcondition.loosen (Nat.zero_le _)) hm
      (hresult.loosen (Nat.zero_le _)) hb, ?_⟩
    rw [Branches.relocate, heqc, heqr, heqb]
    rfl

end

end Quarry.Script
