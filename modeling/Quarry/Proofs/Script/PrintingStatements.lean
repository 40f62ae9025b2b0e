import Quarry.Proofs.Script.Printing

/-!
# What is printed of statements

Lexemes with the tokens of a printed select, statement or program spell it, up to places.
-/

namespace Quarry.Script

/-! ## 1. Hints -/

theorem prints_hint (hint : Hint) : Prints Hint.Spelled (Hint.relocate nowhere) hint hint.print := by
  intro ls htokens
  cases hint with
  | js =>
    obtain ⟨l, rest, rfl, hl, hrest⟩ := List.map_eq_cons_iff.mp htokens
    cases List.map_eq_nil_iff.mp hrest
    exact ⟨_, .js (isWord_of_identifier hl (by decide +kernel)), rfl⟩
  | thread count p =>
    obtain ⟨l, rest, rfl, hl, hrest⟩ := List.map_eq_cons_iff.mp htokens
    obtain ⟨m, rest, rfl, hm, hnil⟩ := List.map_eq_cons_iff.mp hrest
    cases List.map_eq_nil_iff.mp hnil
    exact ⟨_, .thread (isWord_of_identifier hl (by decide +kernel)) (.bare (.intro hm)), rfl⟩

theorem prints_hints (hints : List Hint) :
    Prints HintsSpelled (List.map (Hint.relocate nowhere)) hints (printHints hints) := by
  intro ls htokens
  cases hints with
  | nil =>
    cases List.map_eq_nil_iff.mp htokens
    exact ⟨[], .none, rfl⟩
  | cons hint hints =>
    obtain ⟨l, us, rfl, hl, hus⟩ := List.map_eq_cons_iff.mp htokens
    obtain ⟨hints', hhints, heq⟩ :=
      prints_commas (List.cons_ne_nil hint hints) (fun hint _ => prints_hint hint) us hus
    have hclause := HintsSpelled.clause hl (.bare hhints) .none
    rw [List.append_nil, List.append_nil] at hclause
    exact ⟨hints', hclause, heq⟩

/-! ## 2. Selects -/

theorem prints_projection {p : Projection} (h : p.Normal) :
    Prints Projection.Spelled (Projection.relocate nowhere) p p.print := by
  intro ls htokens
  cases p with
  | star p =>
    obtain ⟨l, rest, rfl, hl, hrest⟩ := List.map_eq_cons_iff.mp htokens
    cases List.map_eq_nil_iff.mp hrest
    exact ⟨_, .star hl, rfl⟩
  | item e label =>
    obtain ⟨us, vs, rfl, hus, hvs⟩ := List.map_eq_append_iff.mp htokens
    obtain ⟨e', he, heq⟩ := e.prints h us hus
    obtain ⟨label', hlabel, heqlabel⟩ := prints_behind (fun label _ => prints_label label) vs hvs
    rw [Option.map_id, id_eq, id_eq] at heqlabel
    subst heqlabel
    refine ⟨_, .item (he.loosen (Nat.zero_le _)) hlabel, ?_⟩
    rw [Projection.relocate, heq]
    rfl

theorem prints_filter {filter : Option Expr} (h : ∀ e ∈ filter, e.Normal) :
    Prints (Optionally .where Expr.Spelled) (Option.map (Expr.relocate nowhere)) filter
      (behind .where Expr.print filter) :=
  prints_behind fun e he ls htokens => by
    obtain ⟨e', hspelled, heq⟩ := e.prints (h e he) ls htokens
    exact ⟨e', hspelled.loosen (Nat.zero_le _), heq⟩

theorem isWord_word {k : Lexeme} {kind : DownloadKind} (hk : k.token = .identifier kind.word) :
    k.token.isWord kind.word :=
  isWord_of_identifier hk (by cases kind <;> decide +kernel)

mutual

theorem Select.prints : (q : Select Unit) → q.Normal →
    Prints Select.Spelled (Select.relocate nowhere) q q.print
  | ⟨projections, source, filter, hints, p, _⟩, ⟨hne, hp, hs, hf, _, hfollow⟩ => by
    intro ls htokens
    obtain ⟨l, rest, rfl, hl, hrest⟩ := List.map_eq_cons_iff.mp htokens
    obtain ⟨us, rest, rfl, hus, hrest⟩ := List.map_eq_append_iff.mp hrest
    obtain ⟨us₁, rest, rfl, hus₁, hrest⟩ := List.map_eq_append_iff.mp hrest
    obtain ⟨us₂, us₃, rfl, hus₂, hus₃⟩ := List.map_eq_append_iff.mp hrest
    obtain ⟨projections', hprojections, heq⟩ :=
      prints_commas hne (fun p hmem => prints_projection (hp p hmem)) us hus
    obtain ⟨source', hsource, heq₁⟩ := source.prints hs us₁ hus₁
    obtain ⟨filter', hfilter, heq₂⟩ := prints_filter hf us₂ hus₂
    obtain ⟨hints', hhints, heq₃⟩ := prints_hints hints us₃ hus₃
    refine ⟨_, .intro hl hprojections hsource hfilter hhints fun hdownload hnone => ?_, ?_⟩
    · rw [← Source.isDownload_relocate source' (f := nowhere), heq₁,
        Source.isDownload_relocate] at hdownload
      rw [hnone, Option.map_none] at heq₂
      rw [hfollow hdownload (Option.map_eq_none_iff.mp heq₂.symm)] at heq₃
      exact List.map_eq_nil_iff.mp heq₃
    · rw [Select.relocate, heq, heq₁, heq₂, heq₃]
      rfl

theorem Source.prints : (source : Source Unit) → source.Normal →
    Prints Source.Spelled (Source.relocate nowhere) source source.print
  | .nothing, _ => by
    intro ls htokens
    cases List.map_eq_nil_iff.mp htokens
    exact ⟨_, .nothing, rfl⟩
  | .buffer name p, _ => by
    intro ls htokens
    obtain ⟨f, rest, rfl, hf, hrest⟩ := List.map_eq_cons_iff.mp htokens
    obtain ⟨l, rest, rfl, hl, hnil⟩ := List.map_eq_cons_iff.mp hrest
    cases List.map_eq_nil_iff.mp hnil
    exact ⟨_, .buffer hf hl, rfl⟩
  | .download kind url hints p, _ => by
    intro ls htokens
    obtain ⟨f, rest, rfl, hf, hrest⟩ := List.map_eq_cons_iff.mp htokens
    obtain ⟨l, rest, rfl, hl, hrest⟩ := List.map_eq_cons_iff.mp hrest
    obtain ⟨k, rest, rfl, hk, hrest⟩ := List.map_eq_cons_iff.mp hrest
    obtain ⟨us, vs, rfl, hus, hvs⟩ := List.map_eq_append_iff.mp hrest
    obtain ⟨_, hurl, rfl⟩ := prints_text url us hus
    obtain ⟨hints', hhints, heq⟩ := prints_hints hints vs hvs
    refine ⟨_, .download hf hl (isWord_word hk) hurl hhints, ?_⟩
    rw [Source.relocate, heq]
    rfl
  | .downloadEach kind urls hints p, h => by
    intro ls htokens
    obtain ⟨f, rest, rfl, hf, hrest⟩ := List.map_eq_cons_iff.mp htokens
    obtain ⟨l, rest, rfl, hl, hrest⟩ := List.map_eq_cons_iff.mp hrest
    obtain ⟨k, rest, rfl, hk, hrest⟩ := List.map_eq_cons_iff.mp hrest
    obtain ⟨o, rest, rfl, ho, hrest⟩ := List.map_eq_cons_iff.mp hrest
    obtain ⟨us, rest, rfl, hus, hrest⟩ := List.map_eq_append_iff.mp hrest
    obtain ⟨c, vs, rfl, hc, hvs⟩ := List.map_eq_cons_iff.mp hrest
    obtain ⟨urls', hurls, hequrls⟩ := urls.prints h.1 us hus
    obtain ⟨hints', hhints, heq⟩ := prints_hints hints vs hvs
    refine ⟨_, .downloadEach hf hl (isWord_word hk) ho hurls hc hhints, ?_⟩
    rw [Source.relocate, hequrls, heq]
    rfl

end

/-! ## 3. Programs -/

theorem prints_columnDecl {c : ColumnDecl} (h : c.Normal) :
    Prints ColumnDecl.Spelled (ColumnDecl.relocate nowhere) c c.print := by
  intro ls htokens
  obtain ⟨l, rest, rfl, hl, hrest⟩ := List.map_eq_cons_iff.mp htokens
  obtain ⟨t, rest, rfl, ht, hrest⟩ := List.map_eq_cons_iff.mp hrest
  cases hword : c.identity && c.typeName.toLower != "identity" with
  | true =>
    obtain ⟨hidentity, _⟩ := Bool.and_eq_true_iff.mp hword
    rw [hword, if_pos rfl] at hrest
    obtain ⟨w, rest, rfl, hw, hnil⟩ := List.map_eq_cons_iff.mp hrest
    cases List.map_eq_nil_iff.mp hnil
    refine ⟨_, .identity hl ht (isWord_of_identifier hw (by decide +kernel)), ?_⟩
    rw [ColumnDecl.relocate, ColumnDecl.relocate, hidentity]
    rfl
  | false =>
    rw [hword, if_neg nofun] at hrest
    cases List.map_eq_nil_iff.mp hrest
    -- Without the word behind it, the type says whether the column is the identity.
    have hidentity : (c.typeName.toLower == "identity") = c.identity := by
      cases htype : c.typeName.toLower == "identity" with
      | true => exact (h.identity (beq_iff_eq.mp htype)).symm
      | false =>
        rw [bne, htype] at hword
        simpa using hword.symm
    refine ⟨_, .plain hl ht, ?_⟩
    rw [ColumnDecl.relocate, hidentity]
    rfl

theorem prints_targets {columns : Option (List String)} (h : ∀ names ∈ columns, names ≠ []) :
    Prints TargetsSpelled id columns (printTargets columns) := by
  intro ls htokens
  cases columns with
  | none =>
    cases List.map_eq_nil_iff.mp htokens
    exact ⟨none, .none, rfl⟩
  | some names =>
    obtain ⟨l, rest, rfl, hl, hrest⟩ := List.map_eq_cons_iff.mp htokens
    obtain ⟨us, rest, rfl, hus, hrest⟩ := List.map_eq_append_iff.mp hrest
    obtain ⟨r, rest, rfl, hr, hnil⟩ := List.map_eq_cons_iff.mp hrest
    cases List.map_eq_nil_iff.mp hnil
    obtain ⟨names', hnames, heq⟩ :=
      prints_commas (h names rfl) (fun name _ => prints_name name) us hus
    rw [List.map_id, List.map_id] at heq
    subst heq
    exact ⟨_, .some hl hnames hr, rfl⟩

theorem prints_statement {s : Statement Unit} (h : s.Normal) :
    Prints Statement.Spelled (Statement.relocate nowhere) s s.print := by
  cases s with
  | createBuffer name columns p =>
    obtain ⟨_, hne, hcolumns⟩ := h
    intro ls htokens
    obtain ⟨l, rest, rfl, hl, hrest⟩ := List.map_eq_cons_iff.mp htokens
    obtain ⟨b, rest, rfl, hb, hrest⟩ := List.map_eq_cons_iff.mp hrest
    obtain ⟨us, rest, rfl, hus, hrest⟩ := List.map_eq_append_iff.mp hrest
    obtain ⟨o, rest, rfl, ho, hrest⟩ := List.map_eq_cons_iff.mp hrest
    obtain ⟨vs, rest, rfl, hvs, hrest⟩ := List.map_eq_append_iff.mp hrest
    obtain ⟨c, rest, rfl, hc, hnil⟩ := List.map_eq_cons_iff.mp hrest
    cases List.map_eq_nil_iff.mp hnil
    obtain ⟨_, hname, rfl⟩ := prints_name name us hus
    obtain ⟨columns', hspelled, heq⟩ :=
      prints_commas hne (fun c hmem => prints_columnDecl (hcolumns c hmem)) vs hvs
    refine ⟨_, .createBuffer hl hb hname ho hspelled hc, ?_⟩
    rw [Statement.relocate, heq]
    rfl
  | insert target columns query p =>
    obtain ⟨_, hcolumns, hquery⟩ := h
    intro ls htokens
    obtain ⟨l, rest, rfl, hl, hrest⟩ := List.map_eq_cons_iff.mp htokens
    obtain ⟨i, rest, rfl, hi, hrest⟩ := List.map_eq_cons_iff.mp hrest
    obtain ⟨us, rest, rfl, hus, hrest⟩ := List.map_eq_append_iff.mp hrest
    obtain ⟨vs, ws, rfl, hvs, hws⟩ := List.map_eq_append_iff.mp hrest
    obtain ⟨_, htarget, rfl⟩ := prints_name target us hus
    obtain ⟨_, htargets, rfl⟩ := prints_targets (fun names hmem => (hcolumns names hmem).1) vs hvs
    obtain ⟨query', hspelled, heq⟩ := query.prints hquery ws hws
    refine ⟨_, .insert hl hi htarget htargets hspelled, ?_⟩
    rw [Statement.relocate, heq]
    rfl
  | select query =>
    intro ls htokens
    obtain ⟨query', hspelled, heq⟩ := query.prints h ls htokens
    exact ⟨_, .select hspelled, congrArg Statement.select heq⟩

/-- A printed program is spelled wherever its tokens stand. -/
theorem prints_program {p : Program Unit} (h : p.Normal) :
    Prints Program.Spelled Program.unplaced p p.print := by
  induction p with
  | nil =>
    intro ls htokens
    cases List.map_eq_nil_iff.mp htokens
    exact ⟨[], .nil, rfl⟩
  | cons s p ih =>
    intro ls htokens
    have h := List.forall_mem_cons.mp h
    obtain ⟨us, vs, rfl, hus, hvs⟩ := List.map_eq_append_iff.mp htokens
    obtain ⟨s', hs, heq⟩ := prints_statement h.1 us hus
    obtain ⟨p', hp, heqp⟩ := ih h.2 vs hvs
    refine ⟨s' :: p', .statement hs hp, ?_⟩
    rw [Program.unplaced, Program.relocate, List.map_cons, heq]
    exact congrArg _ heqp

end Quarry.Script
