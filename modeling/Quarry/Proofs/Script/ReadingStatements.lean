import Quarry.Proofs.Script.Reading

/-!
# What the readers of statements accept

Selects, statements and programs: a reader that has a result took lexemes that spell it.
-/

namespace Quarry.Script.Parser

open Scan (Leaves)

variable {bound : Nat}

/-! ## 1. Hints -/

theorem threadCount_sound : Sound bound threadCount CountSpelled := by
  intro s count s' _ _ h
  obtain ⟨t, s₁, hpeek, h⟩ := bind_eq_ok.mp h
  cases hpeek
  cases htoken : s.token with
  | integer n =>
    rw [htoken] at h
    obtain ⟨l, s₁, hl, hleaves, h⟩ := advance_bind_eq_ok h htoken nofun
    cases h
    exact ⟨[l], hleaves, .intro hl⟩
  | _ =>
    rw [htoken] at h
    exact absurd h expected_ne_ok

theorem hint_sound : Sound bound hint Hint.Spelled := by
  rw [hint_eq]
  intro s hint s' _ hsize h
  obtain ⟨position, s₁, hplace, h⟩ := bind_eq_ok.mp h
  cases hplace
  obtain ⟨found, s₁, haccept, h⟩ := bind_eq_ok.mp h
  rcases acceptWord_eq_ok haccept with ⟨rfl, l, hl, hleaves⟩ | ⟨rfl, _, rfl⟩
  · cases h
    exact ⟨[l], hleaves, .js hl⟩
  obtain ⟨found, s₂, haccept, h⟩ := bind_eq_ok.mp h
  rcases acceptWord_eq_ok haccept with ⟨rfl, l, hl, hleaves⟩ | ⟨rfl, _, rfl⟩
  · obtain ⟨count, s₃, hread, h⟩ := bind_eq_ok.mp h
    obtain ⟨ts, hrest, hcount⟩ :=
      optionalParens_sound threadCount_sound hleaves.settled (hleaves.size_lt hsize) hread
    cases h
    rw [hleaves.position]
    exact ⟨l :: ts, hleaves.trans hrest, .thread hl hcount⟩
  · obtain ⟨u, s₃, hread, _⟩ := bind_eq_ok.mp h
    exact absurd hread expected_ne_ok

theorem hints_sound (clauses : Nat) : Sound bound (hints bound clauses) HintsSpelled := by
  induction clauses with
  | zero =>
    intro s l s' hs _ h
    cases h
    exact ⟨[], .refl hs, .none⟩
  | succ clauses ih =>
    intro s l s' hs hsize h
    obtain ⟨found, s₁, haccept, h⟩ := bind_eq_ok.mp h
    rcases accept_eq_ok haccept nofun with ⟨rfl, w, hw, hfirst⟩ | ⟨rfl, _, rfl⟩
    · obtain ⟨clause, s₂, hread, h⟩ := bind_eq_ok.mp h
      have hsize₁ := hfirst.size_lt hsize
      obtain ⟨ts, h₁, hclause⟩ := optionalParens_sound
        (commaList_sound hint_sound bound (Nat.le_refl _)) hfirst.settled hsize₁ hread
      obtain ⟨more, s₃, hread, h⟩ := bind_eq_ok.mp h
      obtain ⟨ts', h₂, hmore⟩ := ih h₁.settled (h₁.size_lt hsize₁) hread
      cases h
      exact ⟨w :: (ts ++ ts'), hfirst.trans (h₁.trans h₂), .clause hw hclause hmore⟩
    · cases h
      exact ⟨[], .refl hs, .none⟩

-- Hints end where no further clause follows.
theorem hints_stop {n : Nat} {s s' : Scan} {l : List Hint} (h : hints bound n s = .ok (l, s'))
    (hs : s.Settled) (hsize : s.size < n) (hn : n ≤ bound) : s'.token ≠ .with := by
  induction n generalizing s l with
  | zero => exact absurd hsize (Nat.not_lt_zero _)
  | succ n ih =>
    obtain ⟨found, s₁, haccept, h⟩ := bind_eq_ok.mp h
    rcases accept_eq_ok haccept nofun with ⟨rfl, w, hw, hfirst⟩ | ⟨rfl, hwith, rfl⟩
    · obtain ⟨clause, s₂, hread, h⟩ := bind_eq_ok.mp h
      have hsize₁ := hfirst.size
      simp only [List.length_singleton] at hsize₁
      obtain ⟨ts, h₁, _⟩ := optionalParens_sound
        (commaList_sound hint_sound bound (Nat.le_refl _)) hfirst.settled (by omega) hread
      obtain ⟨more, s₃, hread, h⟩ := bind_eq_ok.mp h
      cases h
      have hsize₂ := h₁.size
      exact ih hread h₁.settled (by omega) (Nat.le_of_succ_le hn)
    · cases h
      exact hwith

/-! ## 2. Selects -/

theorem label_sound : Sound bound label LabelSpelled := by
  intro s name s' _ _ h
  obtain ⟨t, s₁, hpeek, h⟩ := bind_eq_ok.mp h
  cases hpeek
  cases htoken : s.token with
  | identifier name' =>
    rw [htoken] at h
    obtain ⟨l, s₁, hl, hleaves, h⟩ := advance_bind_eq_ok h htoken nofun
    cases h
    exact ⟨[l], hleaves, .name hl⟩
  | string name' =>
    rw [htoken] at h
    obtain ⟨l, s₁, hl, hleaves, h⟩ := advance_bind_eq_ok h htoken nofun
    cases h
    exact ⟨[l], hleaves, .text hl⟩
  | _ =>
    rw [htoken] at h
    exact absurd h expected_ne_ok

theorem projection_sound (n : Nat) : Sound bound (projection n) Projection.Spelled := by
  rw [projection_eq]
  intro s p s' hs hsize h
  obtain ⟨position, s₁, hplace, h⟩ := bind_eq_ok.mp h
  cases hplace
  obtain ⟨found, s₁, haccept, h⟩ := bind_eq_ok.mp h
  rcases accept_eq_ok haccept nofun with ⟨rfl, l, hl, hleaves⟩ | ⟨rfl, _, rfl⟩
  · cases h
    rw [hleaves.position]
    exact ⟨[l], hleaves, .star hl⟩
  · obtain ⟨e, s₁, hread, h⟩ := bind_eq_ok.mp h
    obtain ⟨ts, h₁, he⟩ := expression_sound n hs hsize hread
    obtain ⟨label, s₂, hread, h⟩ := bind_eq_ok.mp h
    obtain ⟨ts', h₂, hlabel⟩ :=
      optional_sound .as nofun label_sound h₁.settled (h₁.size_lt hsize) hread
    cases h
    exact ⟨ts ++ ts', h₁.trans h₂, .item he hlabel⟩

theorem downloadKind_sound :
    Sound bound downloadKind fun kind ts => ∃ k : Lexeme, k.token.isWord kind.word ∧ ts = [k] := by
  intro s kind s' _ _ h
  obtain ⟨found, s₁, haccept, h⟩ := bind_eq_ok.mp h
  rcases acceptWord_eq_ok haccept with ⟨rfl, l, hl, hleaves⟩ | ⟨rfl, _, rfl⟩
  · cases h
    exact ⟨[l], hleaves, l, hl, rfl⟩
  obtain ⟨found, s₂, haccept, h⟩ := bind_eq_ok.mp h
  rcases acceptWord_eq_ok haccept with ⟨rfl, l, hl, hleaves⟩ | ⟨rfl, _, rfl⟩
  · cases h
    exact ⟨[l], hleaves, l, hl, rfl⟩
  obtain ⟨found, s₃, haccept, h⟩ := bind_eq_ok.mp h
  rcases acceptWord_eq_ok haccept with ⟨rfl, l, hl, hleaves⟩ | ⟨rfl, _, rfl⟩
  · cases h
    exact ⟨[l], hleaves, l, hl, rfl⟩
  · exact absurd h expected_ne_ok

/-- A source behind its keyword. No clause follows the hints of a download. -/
theorem source_sound {inner : Parser (Select Unit)} (hinner : Sound bound inner Select.Spelled)
    {f : Lexeme} (hf : f.token = .from) {s s' : Scan} {src : Source Unit} (hsize : s.size < bound)
    (h : source inner bound s = .ok (src, s')) :
    ∃ ts, s.Leaves s' ts ∧ src.Spelled (f :: ts) ∧ (src.isDownload → s'.token ≠ .with) := by
  obtain ⟨position, s₁, hplace, h⟩ := bind_eq_ok.mp h
  cases hplace
  obtain ⟨t, s₁, hpeek, h⟩ := bind_eq_ok.mp h
  cases hpeek
  cases htoken : s.token with
  | identifier name =>
    rw [htoken] at h
    obtain ⟨l, s₁, hl, hleaves, h⟩ := advance_bind_eq_ok h htoken nofun
    cases h
    rw [hleaves.position]
    exact ⟨[l], hleaves, .buffer hf hl, nofun⟩
  | download =>
    rw [htoken] at h
    obtain ⟨l, s₁, hl, hfirst, h⟩ := advance_bind_eq_ok h htoken nofun
    rw [hfirst.position] at h
    have hsize₁ := hfirst.size_lt hsize
    obtain ⟨kind, s₂, hread, h⟩ := bind_eq_ok.mp h
    obtain ⟨_, h₁, k, hk, rfl⟩ := downloadKind_sound hfirst.settled hsize₁ hread
    have hsize₂ := h₁.size_lt hsize₁
    obtain ⟨t, s₃, hpeek, h⟩ := bind_eq_ok.mp h
    cases hpeek
    cases htoken' : s₂.token with
    | string url =>
      rw [htoken'] at h
      obtain ⟨q, s₃, hq, h₂, h⟩ := advance_bind_eq_ok h htoken' nofun
      obtain ⟨hints, s₄, hread, h⟩ := bind_eq_ok.mp h
      have hsize₃ := h₂.size_lt hsize₂
      obtain ⟨ts, h₃, hhints⟩ := hints_sound bound h₂.settled hsize₃ hread
      have hstop := hints_stop hread h₂.settled hsize₃ (Nat.le_refl _)
      cases h
      have hspelled := Source.Spelled.download hf hl hk (.intro hq) hhints
      exact ⟨_, hfirst.trans (h₁.trans (h₂.trans h₃)), hspelled, fun _ => hstop⟩
    | lparen =>
      rw [htoken'] at h
      obtain ⟨p, s₃, hp, h₂, h⟩ := advance_bind_eq_ok h htoken' nofun
      have hsize₃ := h₂.size_lt hsize₂
      obtain ⟨urls, s₄, hread, h⟩ := bind_eq_ok.mp h
      obtain ⟨ts, h₃, hurls⟩ := hinner h₂.settled hsize₃ hread
      obtain ⟨r, s₅, hr, h₄, h⟩ := expect_bind_eq_ok h nofun
      obtain ⟨hints, s₆, hread, h⟩ := bind_eq_ok.mp h
      have hsize₅ := h₄.size_lt (h₃.size_lt hsize₃)
      obtain ⟨ts', h₅, hhints⟩ := hints_sound bound h₄.settled hsize₅ hread
      have hstop := hints_stop hread h₄.settled hsize₅ (Nat.le_refl _)
      cases h
      have hspelled := Source.Spelled.downloadEach hf hl hk hp hurls hr hhints
      exact ⟨_, hfirst.trans (h₁.trans (h₂.trans (h₃.trans (h₄.trans h₅)))), hspelled,
        fun _ => hstop⟩
    | _ =>
      rw [htoken'] at h
      exact absurd h expected_ne_ok
  | _ =>
    rw [htoken] at h
    exact absurd h expected_ne_ok

theorem sourceClause_sound {inner : Parser (Select Unit)} (hinner : Sound bound inner Select.Spelled)
    {s s' : Scan} {src : Source Unit} (hs : s.Settled) (hsize : s.size < bound)
    (h : sourceClause inner bound s = .ok (src, s')) :
    ∃ ts, s.Leaves s' ts ∧ src.Spelled ts ∧ (src.isDownload → s'.token ≠ .with) := by
  obtain ⟨found, s₁, haccept, h⟩ := bind_eq_ok.mp h
  rcases accept_eq_ok haccept nofun with ⟨rfl, f, hf, hfrom⟩ | ⟨rfl, _, rfl⟩
  · obtain ⟨ts, hleaves, hsource, hstop⟩ := source_sound hinner hf (hfrom.size_lt hsize) h
    exact ⟨f :: ts, hfrom.trans hleaves, hsource, hstop⟩
  · cases h
    exact ⟨[], .refl hs, .nothing, nofun⟩

/-- What follows the source of a select. Without a filter, its hints start where it does. -/
theorem clauses_sound {projections : List Projection} {src : Source Unit} {position : Position}
    {s s' : Scan} {q : Select Unit} (hs : s.Settled) (hsize : s.size < bound)
    (h : clauses bound projections src position s = .ok (q, s')) :
    ∃ filter hints ts us, q = ⟨projections, src, filter, hints, position, ()⟩ ∧
      s.Leaves s' (ts ++ us) ∧ Optionally .where Expr.Spelled filter ts ∧ HintsSpelled hints us ∧
      (filter = none → s.token ≠ .with → hints = []) := by
  obtain ⟨filter, s₁, hread, h⟩ := bind_eq_ok.mp h
  obtain ⟨ts, h₁, hfilter⟩ :=
    optional_sound .where nofun (expression_sound bound) hs hsize hread
  obtain ⟨hints, s₂, hread, h⟩ := bind_eq_ok.mp h
  obtain ⟨us, h₂, hhints⟩ := hints_sound bound h₁.settled (h₁.size_lt hsize) hread
  cases h
  refine ⟨filter, hints, ts, us, rfl, h₁.trans h₂, hfilter, hhints, ?_⟩
  rintro rfl hne
  cases hfilter
  have hsame : s = s₁ := h₁.eq
  cases hhints with
  | none => rfl
  | clause hw _ _ =>
    refine absurd ?_ hne
    rw [hsame, h₂.eq]
    exact hw

theorem select_sound (depth : Nat) : Sound bound (select bound depth) Select.Spelled := by
  -- By induction on how deep selects nest.
  induction depth with
  | zero => exact fun _ _ _ _ _ h => absurd h expected_ne_ok
  | succ depth ih =>
    rw [select_succ]
    intro s q s' hs hsize h
    obtain ⟨position, s₁, hplace, h⟩ := bind_eq_ok.mp h
    cases hplace
    obtain ⟨l, s₁, hl, h₀, h⟩ := expect_bind_eq_ok h nofun
    rw [h₀.position] at h
    have hsize₁ := h₀.size_lt hsize
    obtain ⟨projections, s₂, hread, h⟩ := bind_eq_ok.mp h
    obtain ⟨ts, h₁, hprojections⟩ :=
      commaList_sound (projection_sound bound) bound (Nat.le_refl _) h₀.settled hsize₁ hread
    have hsize₂ := h₁.size_lt hsize₁
    obtain ⟨src, s₃, hread, h⟩ := bind_eq_ok.mp h
    obtain ⟨ts₁, h₂, hsource, hstop⟩ := sourceClause_sound ih h₁.settled hsize₂ hread
    obtain ⟨filter, hints, ts₂, ts₃, rfl, h₃, hfilter, hhints, hfirst⟩ :=
      clauses_sound h₂.settled (h₂.size_lt hsize₂) h
    exact ⟨l :: (ts ++ (ts₁ ++ (ts₂ ++ ts₃))), h₀.trans (h₁.trans (h₂.trans h₃)),
      .intro hl hprojections hsource hfilter hhints
        fun hdownload hnone => hfirst hnone (hstop hdownload)⟩

/-! ## 3. Programs -/

theorem columnDecl_sound : Sound bound columnDecl ColumnDecl.Spelled := by
  intro s c s' _ _ h
  obtain ⟨position, s₁, hplace, h⟩ := bind_eq_ok.mp h
  cases hplace
  obtain ⟨name, s₁, hread, h⟩ := bind_eq_ok.mp h
  obtain ⟨l, hl, h₁⟩ := identifier_eq_ok hread
  obtain ⟨typeName, s₂, hread, h⟩ := bind_eq_ok.mp h
  obtain ⟨t, ht, h₂⟩ := identifier_eq_ok hread
  obtain ⟨found, s₃, haccept, h⟩ := bind_eq_ok.mp h
  rcases acceptWord_eq_ok haccept with ⟨rfl, w, hw, h₃⟩ | ⟨rfl, _, rfl⟩
  · cases h
    rw [h₁.position, Bool.true_or]
    exact ⟨[l, t, w], h₁.trans (h₂.trans h₃), .identity hl ht hw⟩
  · cases h
    rw [h₁.position, Bool.false_or]
    exact ⟨[l, t], h₁.trans h₂, .plain hl ht⟩

theorem targets_sound : Sound bound (targets bound) TargetsSpelled := by
  intro s o s' hs hsize h
  obtain ⟨found, s₁, haccept, h⟩ := bind_eq_ok.mp h
  rcases accept_eq_ok haccept nofun with ⟨rfl, l, hl, hfirst⟩ | ⟨rfl, _, rfl⟩
  · obtain ⟨names, s₂, hread, h⟩ := bind_eq_ok.mp h
    obtain ⟨ts, h₁, hnames⟩ := commaList_sound (name_sound _) bound (Nat.le_refl _) hfirst.settled
      (hfirst.size_lt hsize) hread
    obtain ⟨r, s₃, hr, h₂, h⟩ := expect_bind_eq_ok h nofun
    cases h
    exact ⟨_, hfirst.trans (h₁.trans h₂), .some hl hnames hr⟩
  · cases h
    exact ⟨[], .refl hs, .none⟩

theorem createBuffer_sound {s s' : Scan} {st : Statement Unit} (hs : s.token = .create)
    (hsize : s.size < bound) (h : createBuffer bound s = .ok (st, s')) :
    ∃ ts, s.Leaves s' ts ∧ st.Spelled ts := by
  obtain ⟨position, s₁, hplace, h⟩ := bind_eq_ok.mp h
  cases hplace
  obtain ⟨l, s₁, hl, h₀, h⟩ := advance_bind_eq_ok h hs nofun
  rw [h₀.position] at h
  obtain ⟨b, s₂, hb, h₁, h⟩ := expect_bind_eq_ok h nofun
  obtain ⟨name, s₃, hread, h⟩ := bind_eq_ok.mp h
  have hsize₂ := h₁.size_lt (h₀.size_lt hsize)
  obtain ⟨ts, h₂, hname⟩ := name_sound _ h₁.settled hsize₂ hread
  obtain ⟨p, s₄, hp, h₃, h⟩ := expect_bind_eq_ok h nofun
  obtain ⟨columns, s₅, hread, h⟩ := bind_eq_ok.mp h
  obtain ⟨ts', h₄, hcolumns⟩ := commaList_sound columnDecl_sound bound (Nat.le_refl _) h₃.settled
    (h₃.size_lt (h₂.size_lt hsize₂)) hread
  obtain ⟨r, s₆, hr, h₅, h⟩ := expect_bind_eq_ok h nofun
  cases h
  exact ⟨l :: b :: (ts ++ p :: (ts' ++ [r])),
    h₀.trans (h₁.trans (h₂.trans (h₃.trans (h₄.trans h₅)))),
    .createBuffer hl hb hname hp hcolumns hr⟩

theorem insert_sound {s s' : Scan} {st : Statement Unit} (hs : s.token = .insert)
    (hsize : s.size < bound) (h : insert bound s = .ok (st, s')) :
    ∃ ts, s.Leaves s' ts ∧ st.Spelled ts := by
  rw [insert_eq] at h
  obtain ⟨position, s₁, hplace, h⟩ := bind_eq_ok.mp h
  cases hplace
  obtain ⟨l, s₁, hl, h₀, h⟩ := advance_bind_eq_ok h hs nofun
  rw [h₀.position] at h
  obtain ⟨i, s₂, hi, h₁, h⟩ := expect_bind_eq_ok h nofun
  obtain ⟨target, s₃, hread, h⟩ := bind_eq_ok.mp h
  have hsize₂ := h₁.size_lt (h₀.size_lt hsize)
  obtain ⟨ts, h₂, htarget⟩ := name_sound _ h₁.settled hsize₂ hread
  obtain ⟨columns, s₄, hread, h⟩ := bind_eq_ok.mp h
  have hsize₃ := h₂.size_lt hsize₂
  obtain ⟨ts', h₃, hcolumns⟩ := targets_sound h₂.settled hsize₃ hread
  obtain ⟨t, s₅, hpeek, h⟩ := bind_eq_ok.mp h
  cases hpeek
  by_cases ht : s₄.token = .select
  · rw [if_pos ht] at h
    obtain ⟨q, s₅, hread, h⟩ := bind_eq_ok.mp h
    obtain ⟨ts'', h₄, hselect⟩ := select_sound bound h₃.settled (h₃.size_lt hsize₃) hread
    cases h
    exact ⟨l :: i :: (ts ++ (ts' ++ ts'')), h₀.trans (h₁.trans (h₂.trans (h₃.trans h₄))),
      .insert hl hi htarget hcolumns hselect⟩
  · rw [if_neg ht] at h
    obtain ⟨u, s₅, hread, _⟩ := bind_eq_ok.mp h
    exact absurd hread expected_ne_ok

theorem statement_sound : Sound bound (statement bound) Statement.Spelled := by
  intro s st s' hs hsize h
  obtain ⟨t, s₁, hpeek, h⟩ := bind_eq_ok.mp h
  cases hpeek
  cases htoken : s.token with
  | create =>
    rw [htoken] at h
    exact createBuffer_sound htoken hsize h
  | insert =>
    rw [htoken] at h
    exact insert_sound htoken hsize h
  | select =>
    rw [htoken] at h
    obtain ⟨q, s₁, hread, h⟩ := bind_eq_ok.mp h
    obtain ⟨ts, hleaves, hselect⟩ := select_sound bound hs hsize hread
    cases h
    exact ⟨ts, hleaves, .select hselect⟩
  | _ =>
    rw [htoken] at h
    exact absurd h expected_ne_ok

-- A statement has a lexeme at least.
theorem statement_ne_nil {st : Statement Unit} : ¬st.Spelled [] := by
  intro h
  cases h with
  | select h => cases h

/-- A program ends at the end of the script. -/
theorem program_sound {n : Nat} {s s' : Scan} {p : Program Unit} (hs : s.Settled)
    (hbound : s.size < bound) (hsize : s.size < n) (h : program bound n s = .ok (p, s')) :
    ∃ ts, s.Leaves s' ts ∧ s'.token = .eof ∧ Program.Spelled p ts := by
  -- By induction on the steps: each one takes a lexeme at least.
  induction n generalizing s p with
  | zero => exact absurd hsize (Nat.not_lt_zero _)
  | succ n ih =>
    obtain ⟨t, s₁, hpeek, h⟩ := bind_eq_ok.mp h
    cases hpeek
    by_cases hsemicolon : s.token = .semicolon
    · rw [hsemicolon] at h
      obtain ⟨l, s₁, hl, hfirst, h⟩ := advance_bind_eq_ok h hsemicolon nofun
      have hsize₁ := hfirst.size
      simp only [List.length_singleton] at hsize₁
      obtain ⟨ts, hrest, heof, hp⟩ := ih hfirst.settled (by omega) (by omega) h
      exact ⟨l :: ts, hfirst.trans hrest, heof, .semicolon hl hp⟩
    by_cases heof : s.token = .eof
    · rw [heof] at h
      cases h
      exact ⟨[], .refl hs, heof, .nil⟩
    · have hstatement : (do
          return (← statement bound) :: (← program bound n) : Parser (Program Unit)) s = .ok (p, s') := by
        rw [← h]
        cases htoken : s.token <;>
          first | rfl | exact absurd htoken hsemicolon | exact absurd htoken heof
      obtain ⟨st, s₁, hread, h⟩ := bind_eq_ok.mp hstatement
      obtain ⟨ts, hfirst, hst⟩ := statement_sound hs hbound hread
      obtain ⟨rest, s₂, hread, h⟩ := bind_eq_ok.mp h
      have hlength : 0 < ts.length := List.length_pos_of_ne_nil fun hnil =>
        statement_ne_nil (hnil ▸ hst)
      have hsize₁ := hfirst.size
      cases h
      obtain ⟨ts', hrest, heof, hp⟩ := ih hfirst.settled (by omega) (by omega) hread
      exact ⟨ts ++ ts', hfirst.trans hrest, heof, .statement hst hp⟩

end Quarry.Script.Parser
