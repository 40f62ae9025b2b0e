import Quarry.Proofs.Script.Steps

/-!
# What readers accept

A reader that has a result took lexemes that spell it. The bounds of readers end no list early on a scan
with fewer lexemes.
-/

namespace Quarry.Script.Parser

open Scan (Leaves)

/-- What the reader makes of a scan with fewer lexemes than the bound is spelled by what it took. -/
def Sound {α : Type} (bound : Nat) (m : Parser α) (spelled : α → List Lexeme → Prop) : Prop :=
  ∀ ⦃s a s'⦄, s.Settled → s.size < bound → m s = .ok (a, s') →
    ∃ ts, s.Leaves s' ts ∧ spelled a ts

variable {α : Type} {bound : Nat}

/-! ## 1. Pieces -/

theorem name_sound (what : String) : Sound bound (identifier what) NameSpelled := by
  intro s name s' _ _ h
  obtain ⟨l, hl, hleaves⟩ := identifier_eq_ok h
  exact ⟨[l], hleaves, .intro hl⟩

theorem text_sound (what : String) : Sound bound (string what) TextSpelled := by
  intro s text s' _ _ h
  obtain ⟨l, hl, hleaves⟩ := string_eq_ok h
  exact ⟨[l], hleaves, .intro hl⟩

theorem optional_sound (keyword : Token) {item : Parser α} {spelled : α → List Lexeme → Prop}
    (hkeyword : keyword ≠ .eof) (hitem : Sound bound item spelled) :
    Sound bound (optional keyword item) (Optionally keyword spelled) := by
  intro s o s' hs hsize h
  obtain ⟨found, s₁, haccept, h⟩ := bind_eq_ok.mp h
  rcases accept_eq_ok haccept hkeyword with ⟨rfl, l, hl, hfirst⟩ | ⟨rfl, _, rfl⟩
  · obtain ⟨a, ha, rfl⟩ := map_eq_ok.mp h
    obtain ⟨ts, hleaves, ha⟩ := hitem hfirst.settled (hfirst.size_lt hsize) ha
    exact ⟨l :: ts, hfirst.trans hleaves, .some hl ha⟩
  · cases h
    exact ⟨[], .refl hs, .none⟩

theorem optionalParens_sound {inner : Parser α} {spelled : α → List Lexeme → Prop}
    (hinner : Sound bound inner spelled) :
    Sound bound (optionalParens inner) (Enclosed spelled) := by
  intro s a s' hs hsize h
  obtain ⟨found, s₁, haccept, h⟩ := bind_eq_ok.mp h
  rcases accept_eq_ok haccept nofun with ⟨rfl, l, hl, hfirst⟩ | ⟨rfl, _, rfl⟩
  · obtain ⟨a', s₂, ha, h⟩ := bind_eq_ok.mp h
    obtain ⟨ts, hleaves, ha⟩ := hinner hfirst.settled (hfirst.size_lt hsize) ha
    obtain ⟨r, s₃, hr, hlast, h⟩ := expect_bind_eq_ok h nofun
    cases h
    exact ⟨_, hfirst.trans (hleaves.trans hlast), .parens hl ha hr⟩
  · obtain ⟨a', s₂, ha, h⟩ := bind_eq_ok.mp h
    cases h
    obtain ⟨ts, hleaves, ha⟩ := hinner hs hsize ha
    exact ⟨ts, hleaves, .bare ha⟩

/-- A list ends where no comma follows, as there are not so many commas as the bound says. -/
theorem commaList_sound {item : Parser α} {spelled : α → List Lexeme → Prop}
    (hitem : Sound bound item spelled) (n : Nat) (hn : n ≤ bound) :
    Sound n (commaList item n) (Listed spelled) := by
  -- By induction on the bound: the comma that was taken leaves fewer lexemes.
  induction n with
  | zero => exact fun _ _ _ _ hsize => absurd hsize (Nat.not_lt_zero _)
  | succ n ih =>
    intro s l s' hs hsize h
    obtain ⟨a, s₁, hread, h⟩ := bind_eq_ok.mp h
    obtain ⟨ts, hfirst, ha⟩ := hitem hs (Nat.lt_of_lt_of_le hsize hn) hread
    obtain ⟨found, s₂, haccept, h⟩ := bind_eq_ok.mp h
    rcases accept_eq_ok haccept nofun with ⟨rfl, c, hc, hcomma⟩ | ⟨rfl, _, rfl⟩
    · obtain ⟨as, s₃, hread, h⟩ := bind_eq_ok.mp h
      cases h
      have hless : s₂.size < n := by
        have hsize₁ := hfirst.size
        have hsize₂ := hcomma.size
        simp only [List.length_singleton] at hsize₂
        omega
      obtain ⟨ts', hrest, has⟩ := ih (Nat.le_of_succ_le hn) hcomma.settled hless hread
      exact ⟨_, hfirst.trans (hcomma.trans hrest), .more ha hc has⟩
    · cases h
      exact ⟨ts, hfirst, .one ha⟩

/-! ## 2. Levels -/

theorem op?_eof (level : Level) : level.op? .eof = none := by
  cases level <;> rfl

section Levels

variable {operand : Parser Expr}

theorem chainFrom_sound (level : Level)
    (hoperand : Sound bound operand fun e => (Phrase.expr level.next e).Spelled)
    (n : Nat) (left : Expr) :
    Sound bound (chainFrom level.op? operand n left)
      fun whole => (Phrase.tail level left whole).Spelled := by
  induction n generalizing left with
  | zero =>
    intro s whole s' hs _ h
    cases h
    exact ⟨[], .refl hs, .stop⟩
  | succ n ih =>
    intro s whole s' hs hsize h
    obtain ⟨t, s₁, hpeek, h⟩ := bind_eq_ok.mp h
    cases hpeek
    cases hop : level.op? s.token with
    | none =>
      rw [hop] at h
      cases h
      exact ⟨[], .refl hs, .stop⟩
    | some op =>
      rw [hop] at h
      obtain ⟨position, s₁, hplace, h⟩ := bind_eq_ok.mp h
      cases hplace
      have heof : s.token ≠ .eof := fun heof => by
        rw [heof, op?_eof] at hop
        cases hop
      obtain ⟨l, s₁, hl, hfirst, h⟩ := advance_bind_eq_ok h rfl heof
      obtain ⟨right, s₂, hread, h⟩ := bind_eq_ok.mp h
      obtain ⟨ts, hleaves, hright⟩ :=
        hoperand hfirst.settled (hfirst.size_lt hsize) hread
      have hsize' := hleaves.size_lt (hfirst.size_lt hsize)
      rw [hfirst.position] at h
      obtain ⟨ts', hrest, htail⟩ := ih _ hleaves.settled hsize' h
      exact ⟨l :: (ts ++ ts'), hfirst.trans (hleaves.trans hrest), .step (hl ▸ hop) hright htail⟩

theorem chain_sound (level : Level) (hlevel : level.isChain)
    (hoperand : Sound bound operand fun e => (Phrase.expr level.next e).Spelled) (n : Nat) :
    Sound bound (chain level.op? operand n) fun e => (Phrase.expr level e).Spelled := by
  intro s e s' hs hsize h
  obtain ⟨first, s₁, hread, h⟩ := bind_eq_ok.mp h
  obtain ⟨ts, hleaves, hfirst⟩ := hoperand hs hsize hread
  obtain ⟨ts', hrest, htail⟩ :=
    chainFrom_sound level hoperand n first hleaves.settled (hleaves.size_lt hsize) h
  exact ⟨_, hleaves.trans hrest, .chain hlevel hfirst htail⟩

variable {primary : Parser Expr}

theorem comparison_sound (hprimary : Sound bound primary fun e => (Phrase.expr .primary e).Spelled)
    (n : Nat) :
    Sound bound (comparison primary n) fun e => (Phrase.expr .comparison e).Spelled := by
  have hsum := chain_sound .sum rfl (chain_sound .product rfl hprimary n) n
  intro s e s' hs hsize h
  obtain ⟨left, s₁, hread, h⟩ := bind_eq_ok.mp h
  obtain ⟨ts, hleaves, hleft⟩ := hsum hs hsize hread
  obtain ⟨t, s₂, hpeek, h⟩ := bind_eq_ok.mp h
  cases hpeek
  cases hop : comparisonOp? s₁.token with
  | none =>
    rw [hop] at h
    cases h
    exact ⟨ts, hleaves, .loose rfl hleft⟩
  | some op =>
    -- After the right side the bound is used up, and so no second operator is read.
    rw [hop] at h
    obtain ⟨position, s₂, hplace, h⟩ := bind_eq_ok.mp h
    cases hplace
    have heof : s₁.token ≠ .eof := fun heof => by
      rw [heof] at hop
      cases hop
    obtain ⟨l, s₂, hl, hmiddle, h⟩ := advance_bind_eq_ok h rfl heof
    obtain ⟨right, s₃, hread, h⟩ := bind_eq_ok.mp h
    have hsize' := hmiddle.size_lt (hleaves.size_lt hsize)
    obtain ⟨ts', hlast, hright⟩ := hsum hmiddle.settled hsize' hread
    cases h
    rw [hmiddle.position]
    exact ⟨_, hleaves.trans (hmiddle.trans hlast), .comparison hleft (hl ▸ hop) hright⟩

theorem negation_sound (hprimary : Sound bound primary fun e => (Phrase.expr .primary e).Spelled)
    (n depth : Nat) :
    Sound bound (negation primary n depth) fun e => (Phrase.expr .not e).Spelled := by
  induction depth with
  | zero =>
    intro s e s' hs hsize h
    obtain ⟨ts, hleaves, he⟩ := comparison_sound hprimary n hs hsize h
    exact ⟨ts, hleaves, .loose rfl he⟩
  | succ depth ih =>
    intro s e s' hs hsize h
    obtain ⟨found, s₁, haccept, h⟩ := bind_eq_ok.mp h
    rcases accept_eq_ok haccept nofun with ⟨rfl, l, hl, hfirst⟩ | ⟨rfl, _, rfl⟩
    · obtain ⟨e', s₂, he, h⟩ := bind_eq_ok.mp h
      cases h
      obtain ⟨ts, hleaves, he⟩ := ih hfirst.settled (hfirst.size_lt hsize) he
      exact ⟨_, hfirst.trans hleaves, .not hl he⟩
    · obtain ⟨ts, hleaves, he⟩ := comparison_sound hprimary n hs hsize h
      exact ⟨ts, hleaves, .loose rfl he⟩

theorem ladder_sound (hprimary : Sound bound primary fun e => (Phrase.expr .primary e).Spelled)
    (n : Nat) : Sound bound (ladder primary n) Expr.Spelled :=
  chain_sound .or rfl (chain_sound .and rfl (negation_sound hprimary n n) n) n

end Levels

/-! ## 3. Primary expressions -/

theorem take_sound : Sound bound take Take.Spelled := by
  intro s t s' _ hsize h
  obtain ⟨found, s₁, haccept, h⟩ := bind_eq_ok.mp h
  rcases acceptWord_eq_ok haccept with ⟨rfl, l, hl, hleaves⟩ | ⟨rfl, _, rfl⟩
  · cases h
    exact ⟨[l], hleaves, .text hl⟩
  obtain ⟨found, s₂, haccept, h⟩ := bind_eq_ok.mp h
  rcases acceptWord_eq_ok haccept with ⟨rfl, l, hl, hleaves⟩ | ⟨rfl, _, rfl⟩
  · cases h
    exact ⟨[l], hleaves, .html hl⟩
  obtain ⟨found, s₃, haccept, h⟩ := bind_eq_ok.mp h
  rcases acceptWord_eq_ok haccept with ⟨rfl, l, hl, hleaves⟩ | ⟨rfl, _, rfl⟩
  · obtain ⟨name, s₄, hread, h⟩ := bind_eq_ok.mp h
    cases h
    obtain ⟨ts, hrest, hname⟩ :=
      text_sound _ hleaves.settled (hleaves.size_lt hsize) hread
    exact ⟨l :: ts, hleaves.trans hrest, .attribute hl hname⟩
  · exact absurd h expected_ne_ok

theorem replacement_sound (pattern : Option String) :
    Sound bound (replacement pattern) fun replace ts =>
      Optionally .replace TextSpelled replace ts ∧ (replace.isSome → pattern.isSome) := by
  intro s replace s' hs hsize h
  obtain ⟨t, s₁, hpeek, h⟩ := bind_eq_ok.mp h
  cases hpeek
  by_cases ht : s.token = .replace
  · rw [if_pos ht] at h
    cases pattern with
    | none => cases h
    | some pattern =>
      obtain ⟨l, s₁, hl, hfirst, h⟩ := advance_bind_eq_ok h ht nofun
      obtain ⟨text, s₂, hread, h⟩ := bind_eq_ok.mp h
      cases h
      obtain ⟨ts, hrest, htext⟩ := text_sound _ hfirst.settled (hfirst.size_lt hsize) hread
      exact ⟨l :: ts, hfirst.trans hrest, .some hl htext, fun _ => rfl⟩
  · rw [if_neg ht] at h
    cases h
    exact ⟨[], .refl hs, .none, nofun⟩

theorem pick_sound : Sound bound pick Pick.Spelled := by
  rw [pick_eq]
  intro s p s' hs hsize h
  obtain ⟨selector, s₁, hread, h⟩ := bind_eq_ok.mp h
  obtain ⟨ts, h₀, hselector⟩ := text_sound _ hs hsize hread
  have hsize₁ := h₀.size_lt hsize
  obtain ⟨take, s₂, hread, h⟩ := bind_eq_ok.mp h
  obtain ⟨ts₁, h₁, htake⟩ := optional_sound .take nofun take_sound h₀.settled hsize₁ hread
  have hsize₂ := h₁.size_lt hsize₁
  obtain ⟨pattern, s₃, hread, h⟩ := bind_eq_ok.mp h
  obtain ⟨ts₂, h₂, hpattern⟩ := optional_sound .match nofun (text_sound _) h₁.settled hsize₂ hread
  have hsize₃ := h₂.size_lt hsize₂
  obtain ⟨replace, s₄, hread, h⟩ := bind_eq_ok.mp h
  obtain ⟨ts₃, h₃, hreplace, hmatch⟩ := replacement_sound pattern h₂.settled hsize₃ hread
  cases h
  exact ⟨_, h₀.trans (h₁.trans (h₂.trans h₃)), .intro hselector htake hpattern hreplace hmatch⟩

section Case

variable {expression : Parser Expr}

theorem branches_sound (hexpression : Sound bound expression Expr.Spelled) (n : Nat) :
    Sound bound (branches expression n) fun b => (Phrase.branches b).Spelled := by
  induction n with
  | zero => exact fun _ _ _ _ _ h => absurd h expected_ne_ok
  | succ n ih =>
    intro s b s' hs hsize h
    obtain ⟨found, s₁, haccept, h⟩ := bind_eq_ok.mp h
    rcases accept_eq_ok haccept nofun with ⟨rfl, l, hl, hfirst⟩ | ⟨rfl, _, rfl⟩
    · obtain ⟨condition, s₂, hread, h⟩ := bind_eq_ok.mp h
      have hsize₁ := hfirst.size_lt hsize
      obtain ⟨ts, h₁, hcondition⟩ := hexpression hfirst.settled hsize₁ hread
      obtain ⟨m, s₃, hm, h₂, h⟩ := expect_bind_eq_ok h nofun
      obtain ⟨result, s₄, hread, h⟩ := bind_eq_ok.mp h
      have hsize₃ := h₂.size_lt (h₁.size_lt hsize₁)
      obtain ⟨ts', h₃, hresult⟩ := hexpression h₂.settled hsize₃ hread
      obtain ⟨rest, s₅, hread, h⟩ := bind_eq_ok.mp h
      obtain ⟨ts'', h₄, hrest⟩ := ih h₃.settled (h₃.size_lt hsize₃) hread
      cases h
      exact ⟨l :: (ts ++ m :: (ts' ++ ts'')), hfirst.trans (h₁.trans (h₂.trans (h₃.trans h₄))),
        .branch hl hcondition hm hresult hrest⟩
    obtain ⟨found, s₂, haccept, h⟩ := bind_eq_ok.mp h
    rcases accept_eq_ok haccept nofun with ⟨rfl, l, hl, hfirst⟩ | ⟨rfl, _, rfl⟩
    · obtain ⟨result, s₃, hread, h⟩ := bind_eq_ok.mp h
      obtain ⟨ts, h₁, hresult⟩ :=
        hexpression hfirst.settled (hfirst.size_lt hsize) hread
      obtain ⟨r, s₄, hr, h₂, h⟩ := expect_bind_eq_ok h nofun
      cases h
      exact ⟨_, hfirst.trans (h₁.trans h₂), .otherwise hl hresult hr⟩
    · obtain ⟨l, s₃, hl, hleaves, h⟩ := expect_bind_eq_ok h nofun
      cases h
      exact ⟨[l], hleaves, .done hl⟩

-- Branches that start with a condition have one.
theorem hasCondition_of_when {b : Branches} {s s' : Scan} {ts : List Lexeme}
    (hb : (Phrase.branches b).Spelled ts) (hleaves : s.Leaves s' ts) (hs : s.token = .when) :
    b.hasCondition := by
  rw [hleaves.eq] at hs
  cases hb with
  | done hl => exact absurd (hl.symm.trans hs) nofun
  | otherwise hl _ _ => exact absurd (hl.symm.trans hs) nofun
  | branch _ _ _ _ _ => rfl

theorem caseRest_sound (hexpression : Sound bound expression Expr.Spelled) (n : Nat)
    (position : Position) (subject : Option Expr) :
    Sound bound (caseRest expression n position subject) fun e ts =>
      ∃ b, (Phrase.branches b).Spelled ts ∧ b.hasCondition ∧ e = match subject with
        | none => .searchedCase b position
        | some subject => .simpleCase subject b position := by
  intro s e s' hs hsize h
  rw [caseRest, peek_bind] at h
  by_cases ht : s.token = .when
  · rw [if_pos ht] at h
    obtain ⟨b, s₁, hread, h⟩ := bind_eq_ok.mp h
    obtain ⟨ts, hleaves, hb⟩ := branches_sound hexpression n hs hsize hread
    have hcondition := hasCondition_of_when hb hleaves ht
    cases subject with
    | none | some subject =>
      cases h
      exact ⟨ts, hleaves, b, hb, hcondition, rfl⟩
  · rw [if_neg ht] at h
    cases h

/-- A case behind its keyword. -/
theorem case_sound (hexpression : Sound bound expression Expr.Spelled) {l : Lexeme}
    (hl : l.token = .case) (n : Nat) :
    Sound bound (case expression n l.position) fun e ts =>
      (Phrase.expr .primary e).Spelled (l :: ts) := by
  rw [case_eq]
  intro s e s' hs hsize h
  rw [peek_bind] at h
  by_cases ht : s.token = .when
  · rw [if_pos ht] at h
    obtain ⟨ts, hleaves, b, hb, hcondition, rfl⟩ := caseRest_sound hexpression n _ _ hs hsize h
    exact ⟨ts, hleaves, .searchedCase hl hb hcondition⟩
  · rw [if_neg ht] at h
    obtain ⟨subject, s₁, hread, h⟩ := bind_eq_ok.mp h
    obtain ⟨ts, h₁, hsubject⟩ := hexpression hs hsize hread
    obtain ⟨ts', h₂, b, hb, hcondition, rfl⟩ :=
      caseRest_sound hexpression n _ _ h₁.settled (h₁.size_lt hsize) h
    exact ⟨ts ++ ts', h₁.trans h₂, .simpleCase hl hsubject hb hcondition⟩

end Case

theorem primary_sound (n : Nat) :
    Sound bound (primary n) fun e => (Phrase.expr .primary e).Spelled := by
  -- By induction on the bound: what stands within a primary expression is read with a smaller one.
  induction n with
  | zero => exact fun _ _ _ _ _ h => nomatch h
  | succ n ih =>
    intro s e s' hs hsize h
    have hexpression := ladder_sound ih n
    obtain ⟨position, s₁, hplace, h⟩ := bind_eq_ok.mp h
    cases hplace
    obtain ⟨t, s₁, hpeek, h⟩ := bind_eq_ok.mp h
    cases hpeek
    cases htoken : s.token with
    | float _ | integer _ | string _ | boolean _ | null =>
      rw [htoken] at h
      obtain ⟨l, s₁, hl, hleaves, h⟩ := advance_bind_eq_ok h htoken nofun
      cases h
      exact ⟨[l], hleaves, .literal (hl ▸ rfl)⟩
    | identifier name =>
      rw [htoken] at h
      obtain ⟨l, s₁, hl, hleaves, h⟩ := advance_bind_eq_ok h htoken nofun
      cases h
      rw [hleaves.position]
      exact ⟨[l], hleaves, .column hl⟩
    | pick =>
      rw [htoken] at h
      obtain ⟨l, s₁, hl, hleaves, h⟩ := advance_bind_eq_ok h htoken nofun
      obtain ⟨p, s₂, hread, h⟩ := bind_eq_ok.mp h
      obtain ⟨ts, hrest, hp⟩ := pick_sound hleaves.settled (hleaves.size_lt hsize) hread
      cases h
      rw [hleaves.position]
      exact ⟨l :: ts, hleaves.trans hrest, .pick hl hp⟩
    | case =>
      rw [htoken] at h
      obtain ⟨l, s₁, hl, hleaves, h⟩ := advance_bind_eq_ok h htoken nofun
      rw [hleaves.position] at h
      obtain ⟨ts, hrest, he⟩ :=
        case_sound hexpression hl n hleaves.settled (hleaves.size_lt hsize) h
      exact ⟨l :: ts, hleaves.trans hrest, he⟩
    | lparen =>
      rw [htoken] at h
      obtain ⟨l, s₁, hl, hleaves, h⟩ := advance_bind_eq_ok h htoken nofun
      obtain ⟨inner, s₂, hread, h⟩ := bind_eq_ok.mp h
      obtain ⟨ts, h₁, hinner⟩ :=
        hexpression hleaves.settled (hleaves.size_lt hsize) hread
      obtain ⟨r, s₃, hr, h₂, h⟩ := expect_bind_eq_ok h nofun
      cases h
      exact ⟨_, hleaves.trans (h₁.trans h₂), .parens hl hinner hr⟩
    | minus =>
      rw [htoken] at h
      obtain ⟨l, s₁, hl, hleaves, h⟩ := advance_bind_eq_ok h htoken nofun
      obtain ⟨operand, s₂, hread, h⟩ := bind_eq_ok.mp h
      obtain ⟨ts, h₁, hoperand⟩ := ih hleaves.settled (hleaves.size_lt hsize) hread
      cases h
      rw [hleaves.position]
      exact ⟨l :: ts, hleaves.trans h₁, .minus hl hoperand⟩
    | _ =>
      rw [htoken] at h
      cases h

theorem expression_sound (n : Nat) : Sound bound (expression n) Expr.Spelled :=
  ladder_sound (primary_sound (n + 1)) (n + 1)

end Quarry.Script.Parser
