import Quarry.Proofs.Script.Steps

/-!
# What is spelled is accepted

Readers take the lexemes that spell something, and all of them, if what follows does not go on with it.
-/

namespace Quarry.Script

/-! ## 1. What follows -/

namespace Level

/-- An expression of the level does not go on with the token: neither a pick at its end nor an operator
of the level or of a tighter one. -/
structure Stops (level : Level) (t : Token) : Prop where
  pick : t ≠ .take ∧ t ≠ .match ∧ t ≠ .replace
  op : ∀ tighter : Level, level.rank ≤ tighter.rank → tighter.op? t = none

theorem rank_le_next (level : Level) : level.rank ≤ level.next.rank := by
  cases level <;> decide

theorem Stops.next {level : Level} {t : Token} (h : level.Stops t) : level.next.Stops t :=
  ⟨h.pick, fun tighter hle => h.op tighter (Nat.le_trans level.rank_le_next hle)⟩

-- The operand in front of an operator does not go on with it.
theorem stops_of_op? {level : Level} {t : Token} {op : Operator} (h : level.op? t = some op) :
    level.next.Stops t := by
  constructor
  · refine ⟨?_, ?_, ?_⟩ <;> rintro rfl <;> cases level <;> cases h
  · intro tighter hle
    cases level <;> cases t <;> first
      | (cases h; done)
      | (cases tighter <;> first | rfl | exact absurd hle (by decide))

end Level

/-- No expression goes on with the token. -/
def Token.endsExpression : Token → Bool
  | .eq | .notEq | .lt | .gt | .ltEq | .gtEq | .plus | .minus | .star | .slash | .percent
  | .and | .or | .take | .match | .replace => false
  | _ => true

theorem Level.stops_of_endsExpression {t : Token} (h : t.endsExpression) (level : Level) :
    level.Stops t := by
  constructor
  · refine ⟨?_, ?_, ?_⟩ <;> rintro rfl <;> cases h
  · intro tighter _
    cases t <;> first | (cases h; done) | (cases tighter <;> rfl)

/-- An expression may start with the token. -/
def Token.startsExpression (t : Token) : Bool :=
  t.literal?.isSome || match t with
    | .identifier _ | .pick | .case | .lparen | .minus => true
    | _ => false

/-- How the lexemes of a phrase start. Only what is at most as tight as `not` starts with it. -/
def Phrase.Starts : Phrase → List Lexeme → Prop
  | .expr level _, ts => ∃ l rest, ts = l :: rest ∧
      (l.token.startsExpression ∨ l.token = .not ∧ level.rank ≤ Level.not.rank)
  | .tail .., _ | .branches _, _ => True

theorem Phrase.Spelled.starts {p : Phrase} {ts : List Lexeme} (h : p.Spelled ts) : p.Starts ts := by
  induction h with
  | literal hl => exact ⟨_, _, rfl, Or.inl (by simp [Token.startsExpression, hl])⟩
  | column hl | pick hl _ | simpleCase hl _ _ _ _ _ | searchedCase hl _ _ _ | parens hl _ _ _
  | minus hl _ _ => exact ⟨_, _, rfl, Or.inl (by rw [hl]; rfl)⟩
  | @loose level e ts hlevel _ ih =>
    obtain ⟨l, rest, hts, hstart⟩ := ih
    refine ⟨l, rest, hts, hstart.imp_right fun h => ⟨h.1, ?_⟩⟩
    exact Nat.le_trans level.rank_le_next h.2
  | not hl _ _ => exact ⟨_, _, rfl, Or.inr ⟨hl, Nat.le_refl _⟩⟩
  | comparison _ _ _ ih _ =>
    obtain ⟨l, rest, rfl, hstart⟩ := ih
    exact ⟨l, _, rfl, hstart.imp_right fun h => absurd h.2 (by decide)⟩
  | @chain level _ _ _ _ _ _ _ ih _ =>
    obtain ⟨l, rest, rfl, hstart⟩ := ih
    exact ⟨l, _, rfl, hstart.imp_right fun h => ⟨h.1, Nat.le_trans level.rank_le_next h.2⟩⟩
  | stop | step _ _ _ _ _ | done _ | otherwise _ _ _ _ | branch _ _ _ _ _ _ _ _ => trivial

namespace Parser

variable {α : Type}

/-- Where the lexemes stand in front of something that may follow, the reader takes them and has the
result. -/
def Accepts (m : Parser α) (follow : Token → Prop) (a : α) (ts : List Lexeme) : Prop :=
  ∀ r : Scan, r.Settled → follow r.token → m (r.prepend ts) = .ok (a, r)

theorem Accepts.mono {m : Parser α} {follow follow' : Token → Prop} {a : α} {ts : List Lexeme}
    (h : Accepts m follow a ts) (hsub : ∀ t, follow' t → follow t) : Accepts m follow' a ts :=
  fun r hr hfollow => h r hr (hsub _ hfollow)

-- What two spellings take one after the other, they take together.
theorem bind_prepend {β : Type} {m : Parser α} {f : α → Parser β} {follow : Token → Prop} {a : α}
    {ts us : List Lexeme} {r : Scan} (h : Accepts m follow a ts) (hr : r.Settled)
    (hfollow : follow (r.prepend us).token) :
    (m >>= f) (r.prepend (ts ++ us)) = f a (r.prepend us) := by
  rw [Scan.prepend_append]
  exact bind_of_ok (h _ (hr.prepend us) hfollow)

/-! ## 2. Pieces -/

theorem name_accepts {what name : String} {ts : List Lexeme} (h : NameSpelled name ts) :
    Accepts (identifier what) (fun _ => True) name ts := by
  cases h with
  | intro hl => exact fun r hr _ => identifier_lexeme hl hr

theorem text_accepts {what text : String} {ts : List Lexeme} (h : TextSpelled text ts) :
    Accepts (string what) (fun _ => True) text ts := by
  cases h with
  | intro hl => exact fun r hr _ => string_lexeme hl hr

section Pieces

variable {spelled : α → List Lexeme → Prop} {follow : Token → Prop} {ts : List Lexeme}

theorem optional_accepts {keyword : Token} {item : Parser α} {o : Option α}
    (h : Optionally keyword spelled o ts)
    (hitem : ∀ {a us}, spelled a us → us.length ≤ ts.length → Accepts item follow a us) :
    Accepts (optional keyword item) (fun t => follow t ∧ t ≠ keyword) o ts := by
  intro r hr hfollow
  cases h with
  | none => exact bind_of_ok (accept_of_ne hfollow.2)
  | some hl ha =>
    refine (bind_of_ok (accept_lexeme hl (hr.prepend _))).trans ?_
    exact map_eq_ok.mpr ⟨_, hitem ha (Nat.le_succ _) r hr hfollow.1, rfl⟩

theorem optionalParens_accepts (follow : Token → Prop) {inner : Parser α} {a : α}
    (h : Enclosed spelled a ts)
    (hinner : ∀ {us}, spelled a us → us.length ≤ ts.length → Accepts inner follow a us)
    (hparen : follow .rparen) (hfirst : ∀ {us}, spelled a us →
      ∃ l rest, us = l :: rest ∧ l.token ≠ .lparen) :
    Accepts (optionalParens inner) follow a ts := by
  intro r hr hfollow
  cases h with
  | bare ha =>
    obtain ⟨l, rest, hts, hl⟩ := hfirst ha
    refine (bind_of_ok (accept_of_ne ?_)).trans ?_
    · rw [hts]
      exact hl
    · exact bind_of_ok (hinner ha (Nat.le_refl _) r hr hfollow)
  | @parens l c _ us hl ha hc =>
    refine (bind_of_ok (accept_lexeme hl (hr.prepend _))).trans ?_
    refine (bind_prepend (hinner ha (by simp; omega)) hr ?_).trans ?_
    · show follow c.token
      rw [hc]
      exact hparen
    · exact bind_of_ok (expect_lexeme hc hr)

/-- A list is read to its end if the bound leaves room for its lexemes. -/
theorem commaList_accepts (follow : Token → Prop) {item : Parser α} {as : List α}
    (h : Listed spelled as ts)
    (hitem : ∀ {a us}, spelled a us → us.length ≤ ts.length → Accepts item follow a us)
    (hcomma : follow .comma) {n : Nat} (hn : ts.length < n) :
    Accepts (commaList item n) (fun t => follow t ∧ t ≠ .comma) as ts := by
  induction h generalizing n with
  | one ha =>
    intro r hr hfollow
    cases n with
    | zero => exact absurd hn (Nat.not_lt_zero _)
    | succ n =>
      refine (bind_of_ok (hitem ha (Nat.le_refl _) r hr hfollow.1)).trans ?_
      exact bind_of_ok (accept_of_ne hfollow.2)
  | @more l a as us us' ha hl _ ih =>
    intro r hr hfollow
    simp only [List.length_append, List.length_cons] at hn hitem
    cases n with
    | zero => exact absurd hn (Nat.not_lt_zero _)
    | succ n =>
      refine (bind_prepend (hitem ha (by omega)) hr ?_).trans ?_
      · show follow l.token
        rw [hl]
        exact hcomma
      · refine (bind_of_ok (accept_lexeme hl (hr.prepend _))).trans ?_
        exact bind_of_ok (ih (fun ha hle => hitem ha (by omega)) (by omega) r hr hfollow)

end Pieces

/-! ## 3. Picks -/

theorem take_accepts {t : Take} {ts : List Lexeme} (h : t.Spelled ts) :
    Accepts take (fun _ => True) t ts := by
  intro r hr _
  cases h with
  | text hl => exact bind_of_ok (acceptWord_lexeme hl hr)
  | html hl =>
    refine (bind_of_ok (acceptWord_of_not (s := .lexeme _ _) (not_isWord hl (by decide)))).trans ?_
    exact bind_of_ok (acceptWord_lexeme hl hr)
  | «attribute» hl hname =>
    refine (bind_of_ok (acceptWord_of_not (s := .lexeme _ _) (not_isWord hl (by decide)))).trans ?_
    refine (bind_of_ok (acceptWord_of_not (s := .lexeme _ _) (not_isWord hl (by decide)))).trans ?_
    refine (bind_of_ok (acceptWord_lexeme hl (hr.prepend _))).trans ?_
    exact bind_of_ok (text_accepts hname r hr trivial)

theorem replacement_accepts {pattern replace : Option String} {ts : List Lexeme}
    (h : Optionally .replace TextSpelled replace ts) (hmatch : replace.isSome → pattern.isSome) :
    Accepts (replacement pattern) (· ≠ .replace) replace ts := by
  intro r hr hfollow
  rw [replacement, peek_bind]
  cases h with
  | none =>
    rw [if_neg (show (r.prepend []).token ≠ .replace from hfollow)]
    rfl
  | @some l text us hl htext =>
    obtain ⟨pattern, rfl⟩ := Option.isSome_iff_exists.mp (hmatch rfl)
    rw [if_pos (show (r.prepend (l :: us)).token = .replace from hl)]
    refine (bind_of_ok (advance_lexeme (hr.prepend _))).trans ?_
    exact bind_of_ok (text_accepts htext r hr trivial)

-- What stands first is the keyword of an item, or what follows where it is left out.
theorem optionally_token {spelled : α → List Lexeme → Prop} {keyword : Token} {o : Option α}
    {ts : List Lexeme} (h : Optionally keyword spelled o ts) (r : Scan) {P : Token → Prop}
    (hkeyword : P keyword) (hr : P r.token) : P (r.prepend ts).token := by
  cases h with
  | none => exact hr
  | some hl _ =>
    show P _
    rw [Scan.prepend, Scan.token, hl]
    exact hkeyword

theorem pick_accepts {p : Pick} {ts : List Lexeme} (h : p.Spelled ts) :
    Accepts pick (fun t => t ≠ .take ∧ t ≠ .match ∧ t ≠ .replace) p ts := by
  intro r hr hfollow
  rw [pick_eq]
  cases h with
  | @intro selector take pattern replace ts ts₁ ts₂ ts₃ hselector htake hpattern hreplace hmatch =>
    have hlast : ∀ t, t ≠ .replace → r.token ≠ t → (r.prepend ts₃).token ≠ t := fun t ht hrt =>
      optionally_token hreplace r (P := (· ≠ t)) (fun h => ht h.symm) hrt
    refine (bind_prepend (text_accepts hselector) hr trivial).trans ?_
    refine (bind_prepend (optional_accepts htake fun ha _ => take_accepts ha) hr
      ⟨trivial, ?_⟩).trans ?_
    · rw [Scan.prepend_append]
      exact optionally_token hpattern _ (P := (· ≠ Token.take)) nofun
        (hlast .take nofun hfollow.1)
    refine (bind_prepend (optional_accepts hpattern fun ha _ => text_accepts ha) hr
      ⟨trivial, hlast .match nofun hfollow.2.1⟩).trans ?_
    exact bind_of_ok (replacement_accepts hreplace hmatch r hr hfollow.2.2)

/-! ## 4. Primary expressions -/

-- The reader of primary expressions with room for one lexeme more.
theorem primary_succ (n : Nat) : primary (n + 1) = (do
    let position ← place
    match ← peek with
    | .float x => advance; return .literal (.float x)
    | .integer n => advance; return .literal (.integer n)
    | .string text => advance; return .literal (.string text)
    | .boolean b => advance; return .literal (.boolean b)
    | .null => advance; return .literal .null
    | .identifier name => advance; return .column name position
    | .pick => advance; return .pick (← pick) position
    | .case => advance; case (ladder (primary n) n) n position
    | .lparen =>
      advance
      let inner ← ladder (primary n) n
      expect .rparen
      return inner
    | .minus =>
      advance
      return negate position (← primary n)
    | token => fail (.noExpression token)) := rfl

section Primary

variable {l r : Lexeme} {e : Expr} {ts us : List Lexeme} {n : Nat}

theorem literal_accepts {v : Value} (hl : l.token.literal? = some v) :
    Accepts (primary (n + 1)) (fun _ => True) (.literal v) [l] := by
  intro r hr _
  show primary (n + 1) (.lexeme l r) = _
  rw [primary_succ, place_bind, peek_bind, Scan.token]
  cases ht : l.token with
  | float _ | integer _ | string _ | boolean _ | null =>
    rw [ht] at hl
    cases hl
    exact bind_of_ok (advance_lexeme hr)
  | _ =>
    rw [ht] at hl
    cases hl

theorem column_accepts {name : String} (hl : l.token = .identifier name) :
    Accepts (primary (n + 1)) (fun _ => True) (.column name l.position) [l] := by
  intro r hr _
  show primary (n + 1) (.lexeme l r) = _
  rw [primary_succ, place_bind, peek_bind, Scan.token, hl]
  exact bind_of_ok (advance_lexeme hr)

theorem primary_pick_accepts {p : Pick} (hl : l.token = .pick) (hp : p.Spelled ts) :
    Accepts (primary (n + 1)) (fun t => t ≠ .take ∧ t ≠ .match ∧ t ≠ .replace)
      (.pick p l.position) (l :: ts) := by
  intro r hr hfollow
  show primary (n + 1) (.lexeme l (r.prepend ts)) = _
  rw [primary_succ, place_bind, peek_bind, Scan.token, hl]
  refine (bind_of_ok (advance_lexeme (hr.prepend ts))).trans ?_
  exact bind_of_ok (pick_accepts hp r hr hfollow)

theorem parens_accepts (hl : l.token = .lparen) (hr : r.token = .rparen)
    (he : Accepts (ladder (primary n) n) (Level.Stops .or) e ts) :
    Accepts (primary (n + 1)) (fun _ => True) e (l :: (ts ++ [r])) := by
  intro s hs _
  show primary (n + 1) (.lexeme l (s.prepend (ts ++ [r]))) = _
  rw [primary_succ, place_bind, peek_bind, Scan.token, hl]
  refine (bind_of_ok (advance_lexeme (hs.prepend _))).trans ?_
  refine (bind_prepend he hs ?_).trans ?_
  · show Level.Stops .or r.token
    rw [hr]
    exact Level.stops_of_endsExpression rfl _
  · exact bind_of_ok (expect_lexeme hr hs)

theorem minus_accepts (hl : l.token = .minus)
    (he : Accepts (primary n) (Level.Stops .primary) e ts) :
    Accepts (primary (n + 1)) (Level.Stops .primary) (negate l.position e) (l :: ts) := by
  intro s hs hfollow
  show primary (n + 1) (.lexeme l (s.prepend ts)) = _
  rw [primary_succ, place_bind, peek_bind, Scan.token, hl]
  refine (bind_of_ok (advance_lexeme (hs.prepend ts))).trans ?_
  exact bind_of_ok (he s hs hfollow)

theorem primary_case_accepts (hl : l.token = .case)
    (he : Accepts (case (ladder (primary n) n) n l.position) (fun _ => True) e ts) :
    Accepts (primary (n + 1)) (fun _ => True) e (l :: ts) := by
  intro s hs _
  show primary (n + 1) (.lexeme l (s.prepend ts)) = _
  rw [primary_succ, place_bind, peek_bind, Scan.token, hl]
  exact (bind_of_ok (advance_lexeme (hs.prepend ts))).trans (he s hs trivial)

end Primary

/-! ## 5. Cases -/

section Case

variable {expression : Parser Expr} {l m r : Lexeme} {condition result subject : Expr} {b : Branches}
  {ts us vs : List Lexeme} {n : Nat}

theorem done_accepts (hl : l.token = .end) :
    Accepts (branches expression (n + 1)) (fun _ => True) .done [l] := by
  intro s hs _
  have hne : ∀ t, Token.end ≠ t → (s.prepend [l]).token ≠ t := fun t ht h => ht (hl ▸ h)
  refine (bind_of_ok (accept_of_ne (hne .when nofun))).trans ?_
  refine (bind_of_ok (accept_of_ne (hne .else nofun))).trans ?_
  exact bind_of_ok (expect_lexeme hl hs)

theorem otherwise_accepts (hl : l.token = .else) (hr : r.token = .end)
    (hresult : Accepts expression (Level.Stops .or) result ts) :
    Accepts (branches expression (n + 1)) (fun _ => True) (.otherwise result) (l :: (ts ++ [r])) := by
  intro s hs _
  have hne : (s.prepend (l :: (ts ++ [r]))).token ≠ .when := fun h => by
    replace h : l.token = .when := h
    rw [hl] at h
    cases h
  refine (bind_of_ok (accept_of_ne hne)).trans ?_
  refine (bind_of_ok (accept_lexeme hl (hs.prepend _))).trans ?_
  refine (bind_prepend hresult hs ?_).trans ?_
  · show Level.Stops .or r.token
    rw [hr]
    exact Level.stops_of_endsExpression rfl _
  · exact bind_of_ok (expect_lexeme hr hs)

-- After a condition there is `then`, and after a result one of the words that start branches.
theorem branches_token {s : Scan} (h : (Phrase.branches b).Spelled ts) :
    (s.prepend ts).token = .when ∨ (s.prepend ts).token = .else ∨ (s.prepend ts).token = .end := by
  cases h with
  | done hl => exact Or.inr (Or.inr hl)
  | otherwise hl _ _ => exact Or.inr (Or.inl hl)
  | branch hl _ _ _ _ => exact Or.inl hl

theorem branch_accepts (hl : l.token = .when) (hm : m.token = .then)
    (hcondition : Accepts expression (Level.Stops .or) condition ts)
    (hresult : Accepts expression (Level.Stops .or) result us)
    (hb : (Phrase.branches b).Spelled vs)
    (hbranches : Accepts (branches expression n) (fun _ => True) b vs) :
    Accepts (branches expression (n + 1)) (fun _ => True) (.branch condition result b)
      (l :: (ts ++ m :: (us ++ vs))) := by
  intro s hs _
  refine (bind_of_ok (accept_lexeme hl (hs.prepend _))).trans ?_
  refine (bind_prepend hcondition hs ?_).trans ?_
  · show Level.Stops .or m.token
    rw [hm]
    exact Level.stops_of_endsExpression rfl _
  refine (bind_of_ok (expect_lexeme hm (hs.prepend _))).trans ?_
  refine (bind_prepend hresult hs ?_).trans ?_
  · rcases branches_token (s := s) hb with h | h | h <;> rw [h] <;>
      exact Level.stops_of_endsExpression rfl _
  · exact bind_of_ok (hbranches s hs trivial)

theorem caseRest_accepts (hb : (Phrase.branches b).Spelled ts) (hcondition : b.hasCondition)
    (hbranches : Accepts (branches expression n) (fun _ => True) b ts) (position : Position)
    (subject : Option Expr) :
    Accepts (caseRest expression n position subject) (fun _ => True)
      (match subject with
        | none => .searchedCase b position
        | some subject => .simpleCase subject b position) ts := by
  intro s hs _
  have hwhen : (s.prepend ts).token = .when := by
    cases hb with
    | branch hl _ _ _ _ => exact hl
    | done _ | otherwise _ _ _ => cases hcondition
  rw [caseRest, peek_bind, if_pos hwhen]
  refine (bind_of_ok (hbranches s hs trivial)).trans ?_
  cases subject <;> rfl

theorem searchedCase_accepts (hb : (Phrase.branches b).Spelled ts) (hcondition : b.hasCondition)
    (hbranches : Accepts (branches expression n) (fun _ => True) b ts) (position : Position) :
    Accepts (case expression n position) (fun _ => True) (.searchedCase b position) ts := by
  intro s hs _
  have hwhen : (s.prepend ts).token = .when := by
    cases hb with
    | branch hl _ _ _ _ => exact hl
    | done _ | otherwise _ _ _ => cases hcondition
  rw [case_eq, peek_bind, if_pos hwhen]
  exact caseRest_accepts hb hcondition hbranches position none s hs trivial

theorem simpleCase_accepts (hsubject : (Phrase.expr .or subject).Spelled ts)
    (hexpression : Accepts expression (Level.Stops .or) subject ts)
    (hb : (Phrase.branches b).Spelled us) (hcondition : b.hasCondition)
    (hbranches : Accepts (branches expression n) (fun _ => True) b us) (position : Position) :
    Accepts (case expression n position) (fun _ => True) (.simpleCase subject b position)
      (ts ++ us) := by
  intro s hs _
  -- No expression starts with the word that starts the branches.
  have hfirst : (s.prepend (ts ++ us)).token ≠ .when := by
    obtain ⟨m, rest, rfl, hstart⟩ := hsubject.starts
    intro hm
    replace hm : m.token = .when := hm
    rw [hm] at hstart
    rcases hstart with hstart | ⟨hnot, _⟩
    · cases hstart
    · cases hnot
  rw [case_eq, peek_bind, if_neg hfirst]
  refine (bind_prepend hexpression hs ?_).trans ?_
  · rcases branches_token (s := s) hb with h | h | h <;> rw [h] <;>
      exact Level.stops_of_endsExpression rfl _
  · exact caseRest_accepts hb hcondition hbranches position (some subject) s hs trivial

end Case

/-! ## 6. Levels -/

theorem chainFrom_stop {op? : Token → Option Operator} {operand : Parser Expr} {left : Expr}
    {s : Scan} (h : op? s.token = none) (n : Nat) :
    chainFrom op? operand n left s = .ok (left, s) := by
  cases n with
  | zero => rfl
  | succ n =>
    rw [chainFrom, peek_bind, h]
    rfl

theorem chainFrom_step {op? : Token → Option Operator} {operand : Parser Expr} {left right : Expr}
    {l : Lexeme} {op : Operator} {ts us : List Lexeme} {s : Scan} {follow : Token → Prop}
    (hop : op? l.token = some op) (hs : s.Settled) (hright : Accepts operand follow right ts)
    (hfollow : follow (s.prepend us).token) (n : Nat) :
    chainFrom op? operand (n + 1) left (s.prepend (l :: (ts ++ us))) =
      chainFrom op? operand n (.binary op left right l.position) (s.prepend us) := by
  rw [chainFrom, peek_bind, Scan.prepend, Scan.token, hop]
  refine (place_bind _).trans ?_
  refine (bind_of_ok (advance_lexeme (hs.prepend _))).trans ?_
  exact bind_prepend hright hs hfollow

-- What follows the left side of a tail is an operator of the level, or what follows the whole.
theorem tail_token {level : Level} {left whole : Expr} {ts : List Lexeme} {s : Scan}
    (h : (Phrase.tail level left whole).Spelled ts) (hs : level.Stops s.token) :
    level.next.Stops (s.prepend ts).token := by
  cases h with
  | stop => exact hs.next
  | step hop _ _ => exact Level.stops_of_op? hop

/-- The reader of expressions of a level. The depth is how many `not` may follow each other. -/
def reader (bound depth : Nat) : Level → Parser Expr
  | .primary => primary bound
  | .product => chain productOp? (primary bound) bound
  | .sum => chain sumOp? (chain productOp? (primary bound) bound) bound
  | .comparison => comparison (primary bound) bound
  | .not => negation (primary bound) bound depth
  | .and => chain andOp? (negation (primary bound) bound bound) bound
  | .or => ladder (primary bound) bound

theorem reader_of_isChain {level : Level} (h : level.isChain) (bound depth : Nat) :
    reader bound depth level = chain level.op? (reader bound bound level.next) bound := by
  cases level <;> first | rfl | cases h

theorem comparison_of_sum {e : Expr} {ts : List Lexeme} {bound depth : Nat}
    (h : Accepts (reader bound depth .sum) (Level.Stops .sum) e ts) :
    Accepts (reader bound depth .comparison) (Level.Stops .comparison) e ts := by
  intro s hs hfollow
  exact (bind_of_ok (h s hs hfollow.next)).trans (chainFrom_stop (hfollow.op .comparison (by decide)) 1)

-- A comparison starts with no `not`, which is left to the level above it.
theorem negation_of_comparison {e : Expr} {ts : List Lexeme} {bound depth : Nat}
    (hspelled : (Phrase.expr .comparison e).Spelled ts)
    (h : Accepts (reader bound depth .comparison) (Level.Stops .comparison) e ts) :
    Accepts (reader bound depth .not) (Level.Stops .not) e ts := by
  intro s hs hfollow
  have hread := h s hs hfollow.next
  cases depth with
  | zero => exact hread
  | succ depth =>
    refine (bind_of_ok (accept_of_ne ?_)).trans hread
    obtain ⟨l, rest, rfl, hstart⟩ := hspelled.starts
    intro hl
    replace hl : l.token = .not := hl
    rcases hstart with hstart | ⟨_, hrank⟩
    · rw [hl] at hstart
      cases hstart
    · exact absurd hrank (by decide)

/-- The readers take the phrase, with any bounds that leave room for its lexemes. -/
def Complete : Phrase → List Lexeme → Prop
  | .expr level e, ts => ∀ bound depth, ts.length ≤ bound → ts.length ≤ depth →
      Accepts (reader bound depth level) level.Stops e ts
  | .tail level left whole, ts => ∀ bound n, ts.length ≤ bound → ts.length ≤ n →
      Accepts (chainFrom level.op? (reader bound bound level.next) n left) level.Stops whole ts
  | .branches b, ts => ∀ bound n, ts.length ≤ bound → ts.length ≤ n →
      Accepts (branches (reader bound bound .or) n) (fun _ => True) b ts

-- The bound of a phrase with a lexeme is that of what stands within it, and one more.
theorem exists_succ {l : Lexeme} {ts : List Lexeme} {bound : Nat} (h : (l :: ts).length ≤ bound) :
    ∃ n, bound = n + 1 ∧ ts.length ≤ n := by
  cases bound with
  | zero => exact absurd h (Nat.not_succ_le_zero _)
  | succ n => exact ⟨n, rfl, Nat.le_of_succ_le_succ h⟩

theorem complete_of_spelled {p : Phrase} {ts : List Lexeme} (h : p.Spelled ts) : Complete p ts := by
  -- By induction on the spelling. The parts of a phrase have fewer lexemes than the whole.
  induction h with
  | literal hl =>
    intro bound depth hbound _
    obtain ⟨n, rfl, _⟩ := exists_succ hbound
    exact (literal_accepts hl).mono fun _ _ => trivial
  | column hl =>
    intro bound depth hbound _
    obtain ⟨n, rfl, _⟩ := exists_succ hbound
    exact (column_accepts hl).mono fun _ _ => trivial
  | pick hl hp =>
    intro bound depth hbound _
    obtain ⟨n, rfl, _⟩ := exists_succ hbound
    exact (primary_pick_accepts hl hp).mono fun _ h => h.pick
  | simpleCase hl hsubject hb hcondition ihsubject ihb =>
    intro bound depth hbound _
    obtain ⟨n, rfl, hn⟩ := exists_succ hbound
    rw [List.length_append] at hn
    refine (primary_case_accepts hl ?_).mono fun _ _ => trivial
    exact simpleCase_accepts hsubject (ihsubject n n (by omega) (by omega)) hb hcondition
      (ihb n n (by omega) (by omega)) _
  | searchedCase hl hb hcondition ih =>
    intro bound depth hbound _
    obtain ⟨n, rfl, hn⟩ := exists_succ hbound
    refine (primary_case_accepts hl ?_).mono fun _ _ => trivial
    exact searchedCase_accepts hb hcondition (ih n n hn hn) _
  | parens hl _ hr ih =>
    intro bound depth hbound _
    obtain ⟨n, rfl, hn⟩ := exists_succ hbound
    rw [List.length_append] at hn
    refine (parens_accepts hl hr ?_).mono fun _ _ => trivial
    exact ih n n (by omega) (by omega)
  | minus hl _ ih =>
    intro bound depth hbound _
    obtain ⟨n, rfl, hn⟩ := exists_succ hbound
    exact minus_accepts hl (ih n n hn hn)
  | @loose level e us hlevel he ih =>
    intro bound depth hbound hdepth
    cases level with
    | comparison => exact comparison_of_sum (ih bound depth hbound hdepth)
    | not => exact negation_of_comparison he (ih bound depth hbound hdepth)
    | or | and | sum | product | primary => cases hlevel
  | not hl _ ih =>
    intro bound depth hbound hdepth s hs hfollow
    obtain ⟨n, rfl, hn⟩ := exists_succ hdepth
    refine (bind_of_ok (accept_lexeme hl (hs.prepend _))).trans ?_
    exact bind_of_ok (ih bound n (Nat.le_of_succ_le hbound) hn s hs hfollow)
  | @comparison l op left right us vs _ hop _ ihleft ihright =>
    intro bound depth hbound hdepth s hs hfollow
    simp only [List.length_append, List.length_cons] at hbound
    have hleft := ihleft bound bound (by omega) (by omega)
    have hright := ihright bound bound (by omega) (by omega)
    have hnext : Level.sum.Stops (s.prepend (l :: vs)).token :=
      Level.stops_of_op? (show Level.op? .comparison l.token = some op from hop)
    refine (bind_prepend hleft hs hnext).trans ?_
    have hstep := @chainFrom_step _ _ left _ _ _ _ [] _ _ hop hs hright hfollow.next 0
    rw [List.append_nil] at hstep
    exact hstep
  | @chain level first whole us vs hlevel _ htail ihfirst ihtail =>
    intro bound depth hbound _ s hs hfollow
    rw [List.length_append] at hbound
    rw [reader_of_isChain hlevel]
    have hfirst := ihfirst bound bound (by omega) (by omega)
    refine (bind_prepend hfirst hs (tail_token htail hfollow)).trans ?_
    exact ihtail bound bound (by omega) (by omega) s hs hfollow
  | @stop level e =>
    intro bound n _ _ s _ hfollow
    exact chainFrom_stop (hfollow.op level (Nat.le_refl _)) n
  | @step level l op left right whole us vs hop _ htail ihright ihtail =>
    intro bound n hbound hn s hs hfollow
    obtain ⟨m, rfl, hm⟩ := exists_succ hn
    simp only [List.length_append, List.length_cons] at hbound hm
    have hright := ihright bound bound (by omega) (by omega)
    refine (chainFrom_step hop hs hright (tail_token htail hfollow) m).trans ?_
    exact ihtail bound m (by omega) (by omega) s hs hfollow
  | done hl =>
    intro bound n _ hn
    obtain ⟨m, rfl, _⟩ := exists_succ hn
    exact done_accepts hl
  | otherwise hl _ hr ih =>
    intro bound n hbound hn
    obtain ⟨m, rfl, _⟩ := exists_succ hn
    simp only [List.length_append, List.length_cons] at hbound
    exact otherwise_accepts hl hr (ih bound bound (by omega) (by omega))
  | branch hl _ hm _ hb ihcondition ihresult ihb =>
    intro bound n hbound hn
    obtain ⟨m, rfl, hm'⟩ := exists_succ hn
    simp only [List.length_append, List.length_cons] at hbound hm'
    exact branch_accepts hl hm (ihcondition bound bound (by omega) (by omega))
      (ihresult bound bound (by omega) (by omega)) hb (ihb bound m (by omega) (by omega))

theorem expression_accepts {e : Expr} {ts : List Lexeme} (h : e.Spelled ts) {n : Nat}
    (hn : ts.length ≤ n) : Accepts (expression n) (Level.Stops .or) e ts := by
  have hcomplete : Complete (.expr .or e) ts := complete_of_spelled h
  exact hcomplete _ _ (Nat.le_succ_of_le hn) (Nat.le_succ_of_le hn)

end Parser

end Quarry.Script
