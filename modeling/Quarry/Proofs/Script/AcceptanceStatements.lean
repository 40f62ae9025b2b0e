import Quarry.Proofs.Script.Acceptance

/-!
# What spells a statement is accepted

Selects, statements and programs. What may follow a select is the same wherever one stands: a closing
parenthesis, a semicolon, a keyword of statements or the end of the script.
-/

namespace Quarry.Script

/-! ## 1. What follows -/

/-- A select may be followed by the token. -/
def Token.followsSelect : Token → Bool
  | .rparen | .semicolon | .create | .insert | .select | .eof => true
  | _ => false

theorem Level.stops_of_followsSelect {t : Token} (h : t.followsSelect) (level : Level) :
    level.Stops t :=
  stops_of_endsExpression (by cases t <;> first | rfl | cases h) level

/-- The token is not part of a select. -/
theorem Token.ne_of_followsSelect {t t' : Token} (h : t.followsSelect) (h' : t'.followsSelect = false) :
    t ≠ t' := by
  rintro rfl
  rw [h'] at h
  cases h

/-- Projections do not go on with the token. -/
def Token.EndsProjections (t : Token) : Prop := (Level.or.Stops t ∧ t ≠ .as) ∧ t ≠ .comma

theorem Token.endsProjections (t : Token) (h : t.endsExpression) (has : t ≠ .as)
    (hcomma : t ≠ .comma) : t.EndsProjections :=
  ⟨⟨Level.stops_of_endsExpression h _, has⟩, hcomma⟩

namespace Parser

variable {bound : Nat} {ts : List Lexeme}

/-! ## 2. Hints -/

theorem threadCount_accepts {count : Int64} (h : CountSpelled count ts) :
    Accepts threadCount (fun _ => True) count ts := by
  cases h with
  | @intro l _ hl =>
    intro r hr _
    show threadCount (.lexeme l r) = _
    rw [threadCount, peek_bind, Scan.token, hl]
    exact bind_of_ok (advance_lexeme hr)

theorem hint_accepts {hint : Hint} (h : hint.Spelled ts) :
    Accepts Parser.hint (fun _ => True) hint ts := by
  rw [hint_eq]
  intro r hr _
  cases h with
  | @js l hl => exact (place_bind _).trans (bind_of_ok (acceptWord_lexeme hl hr))
  | @thread l count us hl hcount =>
    refine (place_bind _).trans ?_
    refine (bind_of_ok (acceptWord_of_not (s := .lexeme _ _) (not_isWord hl (by decide)))).trans ?_
    refine (bind_of_ok (acceptWord_lexeme hl (hr.prepend _))).trans ?_
    refine bind_of_ok (optionalParens_accepts _ hcount (fun h _ => threadCount_accepts h) trivial ?_ r
      hr trivial)
    intro vs h
    cases h with
    | intro hl => exact ⟨_, [], rfl, hl ▸ nofun⟩

theorem hints_accepts {hints : List Hint} (h : HintsSpelled hints ts) {n : Nat}
    (hbound : ts.length ≤ bound) (hn : ts.length ≤ n) :
    Accepts (Parser.hints bound n) (fun t => t ≠ .with ∧ t ≠ .comma) hints ts := by
  induction h generalizing n with
  | none =>
    intro r hr hfollow
    cases n with
    | zero => rfl
    | succ n => exact bind_of_ok (accept_of_ne hfollow.1)
  | @clause l hints more us vs hl hhints hmore ih =>
    intro r hr hfollow
    obtain ⟨n, rfl, hn⟩ := exists_succ hn
    simp only [List.length_append, List.length_cons] at hn hbound
    refine (bind_of_ok (accept_lexeme hl (hr.prepend _))).trans ?_
    -- A clause is followed by another one, or by what follows all of them.
    have hnext : (r.prepend vs).token ≠ .comma := by
      cases hmore with
      | none => exact hfollow.2
      | clause hl _ _ => exact fun h => nomatch hl.symm.trans h
    refine (bind_prepend (optionalParens_accepts (· ≠ .comma) hhints ?_ nofun ?_) hr
      hnext).trans ?_
    · intro ws h hle
      exact (commaList_accepts (fun _ => True) h (fun h _ => hint_accepts h) trivial
        (by omega)).mono fun _ h => ⟨trivial, h⟩
    · intro ws h
      have hfirst : ∀ {hint : Hint} {xs}, hint.Spelled xs →
          ∃ l rest, xs = l :: rest ∧ l.token ≠ .lparen := by
        intro hint xs h
        cases h with
        | js hl | thread hl _ => exact ⟨_, _, rfl, fun h => by rw [h] at hl; cases hl⟩
      cases h with
      | one h => exact hfirst h
      | more h _ _ =>
        obtain ⟨l, rest, rfl, hl⟩ := hfirst h
        exact ⟨l, _, rfl, hl⟩
    · exact bind_of_ok (ih (by omega) (by omega) r hr hfollow)

/-! ## 3. Selects -/

theorem label_accepts {label : String} (h : LabelSpelled label ts) :
    Accepts Parser.label (fun _ => True) label ts := by
  intro r hr _
  cases h with
  | @name l _ hl | @text l _ hl =>
    show Parser.label (.lexeme l r) = _
    rw [Parser.label, peek_bind, Scan.token, hl]
    exact bind_of_ok (advance_lexeme hr)

theorem projection_accepts {p : Projection} (h : p.Spelled ts) (hbound : ts.length ≤ bound) :
    Accepts (projection bound) (fun t => Level.or.Stops t ∧ t ≠ .as) p ts := by
  rw [projection_eq]
  intro r hr hfollow
  cases h with
  | @star l hl =>
    exact (place_bind _).trans (bind_of_ok (accept_lexeme hl hr))
  | @item e label us vs he hlabel =>
    rw [List.length_append] at hbound
    have hfirst : (r.prepend (us ++ vs)).token ≠ .star := by
      obtain ⟨l, rest, rfl, hstart⟩ := Phrase.Spelled.starts he
      intro hl
      replace hl : l.token = .star := hl
      rw [hl] at hstart
      rcases hstart with hstart | ⟨hnot, _⟩
      · cases hstart
      · cases hnot
    have hnext : Level.or.Stops (r.prepend vs).token :=
      optionally_token hlabel r (Level.stops_of_endsExpression rfl _) hfollow.1
    refine (place_bind _).trans ((bind_of_ok (accept_of_ne hfirst)).trans ?_)
    refine (bind_prepend (expression_accepts he (by omega)) hr hnext).trans ?_
    exact bind_of_ok (optional_accepts hlabel (fun h _ => label_accepts h) r hr ⟨trivial, hfollow.2⟩)

theorem downloadKind_accepts {kind : DownloadKind} {k : Lexeme} (hk : k.token.isWord kind.word) :
    Accepts downloadKind (fun _ => True) kind [k] := by
  intro r hr _
  have hnot : ∀ {word}, kind.word ≠ word → acceptWord word (.lexeme k r) = .ok (false, .lexeme k r) :=
    fun hne => acceptWord_of_not (s := .lexeme k r) (not_isWord hk hne)
  have haccept := acceptWord_lexeme hk hr
  cases kind with
  | page => exact bind_of_ok haccept
  | json => exact (bind_of_ok (hnot (by decide))).trans (bind_of_ok haccept)
  | image =>
    refine (bind_of_ok (hnot (by decide))).trans ?_
    exact (bind_of_ok (hnot (by decide))).trans (bind_of_ok haccept)

/-- A source behind its keyword is taken if no more hints follow a download. -/
theorem source_accepts {inner : Parser (Select Unit)} {src : Source Unit} {f : Lexeme}
    (h : src.Spelled (f :: ts)) (hbound : ts.length ≤ bound)
    (hinner : ∀ {urls us}, Select.Spelled urls us → us.length ≤ ts.length →
      Accepts inner (fun t => t.followsSelect) urls us) :
    Accepts (source inner bound) (fun t => (src.isDownload → t ≠ .with) ∧ t ≠ .comma) src ts := by
  intro r hr hfollow
  cases h with
  | @buffer _ l name _ hl =>
    refine (place_bind _).trans ?_
    show (peek >>= _ : Parser (Source Unit)) (.lexeme l r) = _
    rw [peek_bind, Scan.token, hl]
    exact bind_of_ok (advance_lexeme hr)
  | @download _ l k kind url hints us vs _ hl hk hurl hhints =>
    cases hurl with
    | @intro q _ hq =>
      simp only [List.length_append, List.length_cons] at hbound
      refine (place_bind _).trans ?_
      show (peek >>= _ : Parser (Source Unit)) (.lexeme l (r.prepend (k :: q :: vs))) = _
      rw [peek_bind, Scan.token, hl]
      refine (bind_of_ok (advance_lexeme (hr.prepend _))).trans ?_
      refine (bind_of_ok (downloadKind_accepts hk (r.prepend (q :: vs)) (hr.prepend _) trivial)).trans ?_
      show (peek >>= _ : Parser (Source Unit)) (.lexeme q (r.prepend vs)) = _
      rw [peek_bind, Scan.token, hq]
      refine (bind_of_ok (advance_lexeme (hr.prepend _))).trans ?_
      exact bind_of_ok (hints_accepts hhints (by omega) (by omega) r hr ⟨hfollow.1 rfl, hfollow.2⟩)
  | @downloadEach _ l k p c kind urls hints us vs _ hl hk hp hurls hc hhints =>
    simp only [List.length_append, List.length_cons] at hbound hinner
    refine (place_bind _).trans ?_
    show (peek >>= _ : Parser (Source Unit)) (.lexeme l (r.prepend (k :: p :: (us ++ c :: vs)))) = _
    rw [peek_bind, Scan.token, hl]
    refine (bind_of_ok (advance_lexeme (hr.prepend _))).trans ?_
    refine (bind_of_ok (downloadKind_accepts hk (r.prepend (p :: (us ++ c :: vs))) (hr.prepend _)
      trivial)).trans ?_
    show (peek >>= _ : Parser (Source Unit)) (.lexeme p (r.prepend (us ++ c :: vs))) = _
    rw [peek_bind, Scan.token, hp]
    refine (bind_of_ok (advance_lexeme (hr.prepend _))).trans ?_
    refine (bind_prepend (hinner hurls (by omega)) hr ?_).trans ?_
    · show c.token.followsSelect = true
      rw [hc]
      rfl
    refine (bind_of_ok (expect_lexeme hc (hr.prepend _))).trans ?_
    exact bind_of_ok (hints_accepts hhints (by omega) (by omega) r hr ⟨hfollow.1 rfl, hfollow.2⟩)

-- Hints start with their keyword, or what follows them comes first.
theorem hints_token {hints : List Hint} (h : HintsSpelled hints ts) (r : Scan) {P : Token → Prop}
    (hwith : hints ≠ [] → P .with) (hr : P r.token) : P (r.prepend ts).token := by
  cases h with
  | none => exact hr
  | @clause l hints more us vs hl hhints _ =>
    have hne : hints ≠ [] := by
      rintro rfl
      cases hhints with
      | bare h | parens _ h _ => cases h
    show P l.token
    rw [hl]
    exact hwith fun happend => hne (List.append_eq_nil_iff.mp happend).1

theorem sourceClause_accepts {inner : Parser (Select Unit)} {src : Source Unit}
    (h : src.Spelled ts) (hbound : ts.length ≤ bound)
    (hinner : ∀ {urls us}, Select.Spelled urls us → us.length ≤ ts.length →
      Accepts inner (fun t => t.followsSelect) urls us) :
    Accepts (sourceClause inner bound)
      (fun t => ((src.isDownload → t ≠ .with) ∧ t ≠ .comma) ∧ t ≠ .from) src ts := by
  intro r hr hfollow
  cases ts with
  | nil =>
    cases h
    exact bind_of_ok (accept_of_ne hfollow.2)
  | cons f us =>
    have hf : f.token = .from := by
      cases h <;> assumption
    refine (bind_of_ok (accept_lexeme hf (hr.prepend _))).trans ?_
    exact source_accepts h (Nat.le_of_succ_le hbound)
      (fun h hle => hinner h (Nat.le_succ_of_le hle)) r hr hfollow.1

theorem sourceClause_token {src : Source Unit} (h : src.Spelled ts) (r : Scan) {P : Token → Prop}
    (hfrom : P .from) (hr : P r.token) : P (r.prepend ts).token := by
  cases h with
  | nothing => exact hr
  | buffer hf _ | download hf _ _ _ _ | downloadEach hf _ _ _ _ _ _ =>
    show P (Lexeme.token _)
    rw [hf]
    exact hfrom

section Clauses

variable {filter : Option Expr} {hints : List Hint} {us : List Lexeme}

theorem clauses_accepts (hfilter : Optionally .where Expr.Spelled filter ts)
    (hhints : HintsSpelled hints us) (hts : ts.length ≤ bound) (hus : us.length < bound)
    (projections : List Projection) (src : Source Unit) (position : Position) :
    Accepts (clauses bound projections src position) (fun t => t.followsSelect)
      ⟨projections, src, filter, hints, position, ()⟩ (ts ++ us) := by
  intro r hr hfollow
  have hne : ∀ t : Token, t.followsSelect = false → r.token ≠ t := fun _ ht =>
    Token.ne_of_followsSelect hfollow ht
  have hnext : Level.or.Stops (r.prepend us).token ∧ (r.prepend us).token ≠ .where :=
    hints_token hhints r (P := fun t => Level.or.Stops t ∧ t ≠ .where)
      (fun _ => ⟨Level.stops_of_endsExpression rfl _, nofun⟩)
      ⟨Level.stops_of_followsSelect hfollow _, hne _ rfl⟩
  refine (bind_prepend (optional_accepts hfilter
    (fun h hle => expression_accepts h (by omega))) hr hnext).trans ?_
  exact bind_of_ok (hints_accepts hhints (by omega) (by omega) r hr ⟨hne _ rfl, hne _ rfl⟩)

theorem clauses_token (hfilter : Optionally .where Expr.Spelled filter ts)
    (hhints : HintsSpelled hints us) (r : Scan) {P : Token → Prop} (hwhere : P .where)
    (hwith : filter = none → hints ≠ [] → P .with) (hr : P r.token) :
    P (r.prepend (ts ++ us)).token := by
  rw [Scan.prepend_append]
  cases hfilter with
  | none => exact hints_token hhints r (hwith rfl) hr
  | some hl _ =>
    show P (Lexeme.token _)
    rw [hl]
    exact hwhere

end Clauses

theorem select_accepts {q : Select Unit} {depth : Nat} (h : q.Spelled ts) (hbound : ts.length ≤ bound)
    (hdepth : ts.length ≤ depth) :
    Accepts (select bound depth) (fun t => t.followsSelect) q ts := by
  -- By induction on how deep selects nest: the one that gives the urls has fewer lexemes.
  induction depth generalizing q ts with
  | zero =>
    cases h
    exact absurd hdepth (Nat.not_succ_le_zero _)
  | succ depth ih =>
    cases h with
    | @intro l projections src filter hints us us₁ us₂ us₃ hl hprojections hsource hfilter hhints
        hdownload =>
      rw [select_succ]
      intro r hr hfollow
      simp only [List.length_append, List.length_cons] at hbound hdepth
      have hne : ∀ t : Token, t.followsSelect = false → r.token ≠ t := fun _ ht =>
        Token.ne_of_followsSelect hfollow ht
      -- The projections are followed by the first clause there is, or by what follows the select.
      have hitemsNext : (r.prepend (us₁ ++ (us₂ ++ us₃))).token.EndsProjections := by
        rw [Scan.prepend_append]
        refine sourceClause_token hsource _ (Token.endsProjections .from rfl nofun nofun) ?_
        exact clauses_token hfilter hhints r (Token.endsProjections .where rfl nofun nofun)
          (fun _ _ => Token.endsProjections .with rfl nofun nofun)
          ⟨⟨Level.stops_of_followsSelect hfollow _, hne _ rfl⟩, hne _ rfl⟩
      -- Hints right behind a download are its own.
      have hclausesNext := clauses_token hfilter hhints r
        (P := fun t => ((src.isDownload → t ≠ .with) ∧ t ≠ .comma) ∧ t ≠ .from)
        ⟨⟨fun _ => nofun, nofun⟩, nofun⟩
        (fun hnone hsome => ⟨⟨fun hsrc => absurd (hdownload hsrc hnone) hsome, nofun⟩, nofun⟩)
        ⟨⟨fun _ => hne _ rfl, hne _ rfl⟩, hne _ rfl⟩
      refine (place_bind _).trans ((bind_of_ok (expect_lexeme hl (hr.prepend _))).trans ?_)
      refine (bind_prepend (commaList_accepts (fun t => Level.or.Stops t ∧ t ≠ .as)
        hprojections (fun h hle => projection_accepts h (by omega))
        ⟨Level.stops_of_endsExpression rfl _, nofun⟩ (by omega)) hr hitemsNext).trans ?_
      refine (bind_prepend (sourceClause_accepts hsource (by omega)
        fun h hle => ih h (by omega) (by omega)) hr hclausesNext).trans ?_
      exact clauses_accepts hfilter hhints (by omega) (by omega) projections src l.position r hr hfollow

/-! ## 4. Programs -/

theorem columnDecl_accepts {c : ColumnDecl} (h : c.Spelled ts) :
    Accepts columnDecl (fun t => ¬t.isWord "identity") c ts := by
  intro r hr hfollow
  cases h with
  | @plain l t name typeName hl ht =>
    refine (place_bind _).trans ?_
    refine (bind_of_ok (identifier_lexeme hl (hr.prepend [t]))).trans ?_
    refine (bind_of_ok (identifier_lexeme ht hr)).trans ?_
    exact bind_of_ok (acceptWord_of_not hfollow)
  | @identity l t w name typeName hl ht hw =>
    refine (place_bind _).trans ?_
    refine (bind_of_ok (identifier_lexeme hl (hr.prepend [t, w]))).trans ?_
    refine (bind_of_ok (identifier_lexeme ht (hr.prepend [w]))).trans ?_
    exact bind_of_ok (acceptWord_lexeme hw hr)

theorem targets_accepts {columns : Option (List String)} (h : TargetsSpelled columns ts)
    (hbound : ts.length ≤ bound) : Accepts (targets bound) (· ≠ .lparen) columns ts := by
  intro r hr hfollow
  cases h with
  | none => exact bind_of_ok (accept_of_ne hfollow)
  | @some l c names us hl hnames hc =>
    simp only [List.length_append, List.length_cons] at hbound
    refine (bind_of_ok (accept_lexeme hl (hr.prepend _))).trans ?_
    refine (bind_prepend (commaList_accepts (fun _ => True) hnames
      (fun h _ => name_accepts h) trivial (by omega)) hr ⟨trivial, ?_⟩).trans ?_
    · exact fun h => nomatch hc.symm.trans h
    · exact bind_of_ok (expect_lexeme hc hr)

theorem createBuffer_accepts {l b p c : Lexeme} {name : String} {columns : List ColumnDecl}
    {us vs : List Lexeme} (hb : b.token = .buffer) (hname : NameSpelled name us)
    (hp : p.token = .lparen) (hcolumns : Listed ColumnDecl.Spelled columns vs)
    (hc : c.token = .rparen) (hbound : vs.length < bound) :
    Accepts (createBuffer bound) (fun _ => True) (.createBuffer name columns l.position)
      (l :: b :: (us ++ p :: (vs ++ [c]))) := by
  intro r hr _
  refine (place_bind _).trans ?_
  refine (bind_of_ok (advance_lexeme (hr.prepend _))).trans ?_
  refine (bind_of_ok (expect_lexeme hb (hr.prepend _))).trans ?_
  refine (bind_prepend (name_accepts hname) hr trivial).trans ?_
  refine (bind_of_ok (expect_lexeme hp (hr.prepend _))).trans ?_
  refine (bind_prepend (commaList_accepts (fun t => ¬t.isWord "identity") hcolumns
    (fun h _ => columnDecl_accepts h) nofun hbound) hr ?_).trans ?_
  · show ¬c.token.isWord "identity" ∧ c.token ≠ .comma
    rw [hc]
    exact ⟨nofun, nofun⟩
  · exact bind_of_ok (expect_lexeme hc hr)

theorem insert_accepts {l i : Lexeme} {target : String} {columns : Option (List String)}
    {q : Select Unit} {us vs ws : List Lexeme} (hi : i.token = .into)
    (htarget : NameSpelled target us) (hcolumns : TargetsSpelled columns vs) (hq : q.Spelled ws)
    (hcolumnsBound : vs.length ≤ bound) (hqBound : ws.length ≤ bound) :
    Accepts (insert bound) (fun t => t.followsSelect) (.insert target columns q l.position)
      (l :: i :: (us ++ (vs ++ ws))) := by
  rw [insert_eq]
  intro r hr hfollow
  have hselect : (r.prepend ws).token = .select := by
    cases hq with
    | intro hl _ _ _ _ _ => exact hl
  refine (place_bind _).trans ?_
  refine (bind_of_ok (advance_lexeme (hr.prepend _))).trans ?_
  refine (bind_of_ok (expect_lexeme hi (hr.prepend _))).trans ?_
  refine (bind_prepend (name_accepts htarget) hr trivial).trans ?_
  refine (bind_prepend (targets_accepts hcolumns hcolumnsBound) hr (hselect ▸ nofun)).trans ?_
  rw [peek_bind, if_pos hselect]
  exact bind_of_ok (select_accepts hq hqBound hqBound r hr hfollow)

-- Each statement starts with a keyword of its own.
theorem statement_starts {st : Statement Unit} (h : st.Spelled ts) :
    ∃ l rest, ts = l :: rest ∧ (l.token = .create ∨ l.token = .insert ∨ l.token = .select) := by
  cases h with
  | createBuffer hl _ _ _ _ _ => exact ⟨_, _, rfl, Or.inl hl⟩
  | insert hl _ _ _ _ => exact ⟨_, _, rfl, Or.inr (Or.inl hl)⟩
  | select hq =>
    cases hq with
    | intro hl _ _ _ _ _ => exact ⟨_, _, rfl, Or.inr (Or.inr hl)⟩

theorem statement_accepts {st : Statement Unit} (h : st.Spelled ts) (hbound : ts.length ≤ bound) :
    Accepts (statement bound) (fun t => t.followsSelect) st ts := by
  intro r hr hfollow
  show (peek >>= _ : Parser (Statement Unit)) (r.prepend ts) = _
  cases h with
  | @createBuffer l b p c name columns us vs hl hb hname hp hcolumns hc =>
    simp only [List.length_append, List.length_cons] at hbound
    rw [peek_bind, show (r.prepend (l :: b :: (us ++ p :: (vs ++ [c])))).token = _ from hl]
    exact createBuffer_accepts hb hname hp hcolumns hc (by omega) r hr trivial
  | @insert l i target columns q us vs ws hl hi htarget hcolumns hq =>
    simp only [List.length_append, List.length_cons] at hbound
    rw [peek_bind, show (r.prepend (l :: i :: (us ++ (vs ++ ws)))).token = _ from hl]
    exact insert_accepts hi htarget hcolumns hq (by omega) (by omega) r hr hfollow
  | @select q _ hq =>
    have hselect : (r.prepend ts).token = .select := by
      cases hq with
      | intro hl _ _ _ _ _ => exact hl
    rw [peek_bind, hselect]
    exact bind_of_ok (select_accepts hq hbound hbound r hr hfollow)

-- A statement is followed by the next one, by a semicolon, or by the end.
theorem program_token {p : Program Unit} (h : Program.Spelled p ts) {r : Scan} (hr : r.token = .eof) :
    (r.prepend ts).token.followsSelect := by
  induction h with
  | nil =>
    show r.token.followsSelect = true
    rw [hr]
    rfl
  | @semicolon l _ _ hl _ _ =>
    show l.token.followsSelect = true
    rw [hl]
    rfl
  | statement hs _ _ =>
    obtain ⟨l, rest, rfl, hl⟩ := statement_starts hs
    show l.token.followsSelect = true
    rcases hl with hl | hl | hl <;> rw [hl] <;> rfl

theorem program_accepts {p : Program Unit} {n : Nat} (h : Program.Spelled p ts)
    (hbound : ts.length ≤ bound) (hn : ts.length < n) :
    Accepts (program bound n) (· = .eof) p ts := by
  -- By induction on the spelling: each step of the reader takes a lexeme at least.
  induction h generalizing n with
  | nil =>
    intro r _ heof
    obtain ⟨n, rfl⟩ := Nat.exists_eq_succ_of_ne_zero (Nat.ne_of_gt hn)
    show (peek >>= _ : Parser (Program Unit)) r = _
    rw [peek_bind, heof]
    rfl
  | @semicolon l p ts hl _ ih =>
    intro r hr heof
    obtain ⟨n, rfl⟩ := Nat.exists_eq_succ_of_ne_zero (Nat.ne_of_gt (Nat.zero_lt_of_lt hn))
    show (peek >>= _ : Parser (Program Unit)) (.lexeme l (r.prepend ts)) = _
    rw [peek_bind, Scan.token, hl]
    refine (bind_of_ok (advance_lexeme (hr.prepend _))).trans ?_
    exact ih (Nat.le_of_succ_le hbound) (Nat.lt_of_succ_lt_succ hn) r hr heof
  | @statement st p ts us hst hp ih =>
    intro r hr heof
    rw [List.length_append] at hbound hn
    have hread := statement_accepts hst (Nat.le_trans (Nat.le_add_right _ _) hbound)
    obtain ⟨l, rest, rfl, hl⟩ := statement_starts hst
    obtain ⟨n, rfl⟩ := Nat.exists_eq_succ_of_ne_zero (Nat.ne_of_gt (Nat.zero_lt_of_lt hn))
    rw [List.length_cons] at hn hbound
    have hrest : (do
        return (← statement bound) :: (← program bound n) : Parser (Program Unit))
          (r.prepend ((l :: rest) ++ us)) = .ok (st :: p, r) := by
      refine (bind_prepend hread hr (program_token hp heof)).trans ?_
      exact bind_of_ok (ih (by omega) (by omega) r hr heof)
    refine Eq.trans ?_ hrest
    show (peek >>= _ : Parser (Program Unit)) (.lexeme l (r.prepend (rest ++ us))) = _
    rw [peek_bind, Scan.token]
    rcases hl with hl | hl | hl <;> rw [hl] <;> rfl

end Parser

end Quarry.Script
