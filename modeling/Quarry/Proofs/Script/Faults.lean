import Quarry.Proofs.Script.Composition
import Quarry.Proofs.Script.Pieces

/-!
# Places of syntax errors

A reader that fails does so at the first token that is left, or at a text that is no lexeme. The token is
the one that the error is about, and none that was taken before. Its place is where the characters of it
start in the script.
-/

namespace Quarry.Script

open Scan (Leaves)

/-! ## 1. Definitions -/

/-- The tokens at which a fault can be found. -/
inductive SyntaxFault.PointsAt : SyntaxFault → Token → Prop where
  | expected {what : String} {t : Token} : PointsAt (.expected what t) t
  | noExpression {t : Token} : PointsAt (.noExpression t) t
  | replaceWithoutMatch : PointsAt .replaceWithoutMatch .replace
  | caseWithoutWhen {t : Token} (ht : t ≠ .when) : PointsAt .caseWithoutWhen t

/-- The tokens of a scan, the end of the script last if nothing else ends it. -/
def Scan.lexemes : Scan → List Lexeme
  | .stop position => [⟨.eof, position⟩]
  | .fault _ => []
  | .lexeme head rest => head :: rest.lexemes

/-- The token is cut from the characters at its place, or ends them. -/
inductive Lexeme.StartsIn (cs : List Char) : Lexeme → Prop where
  | cut {before rest : List Char} {c : Char} {cut : Cut} (hcs : cs = before ++ c :: rest)
      (hcut : cutLexeme c rest = .ok cut) : StartsIn cs ⟨cut.token, Position.behind before⟩
  | eof : StartsIn cs ⟨.eof, Position.behind cs⟩

/-- No token can be cut from the characters at the place of the error. -/
inductive LexError.StartsIn (cs : List Char) : LexError → Prop where
  | intro {before rest : List Char} {c : Char} {fault : LexFault} (hcs : cs = before ++ c :: rest)
      (hcut : cutLexeme c rest = .error fault) : StartsIn cs ⟨Position.behind before, fault⟩

/-- The error is at the first token that is left, or at a text that is no lexeme. -/
inductive SyntaxError.At : SyntaxError → Scan → Prop where
  | token {s : Scan} {fault : SyntaxFault} (hs : s.Settled) (hfault : fault.PointsAt s.token) :
      At ⟨s.position, fault⟩ s
  | lexical {e : LexError} : At ⟨e.position, .lexical e.fault⟩ (.fault e)

/-- The error is at what is left behind some lexemes. -/
def SyntaxError.Within (e : SyntaxError) (s : Scan) : Prop := ∃ s' ts, s = s'.prepend ts ∧ e.At s'

theorem SyntaxError.Within.behind {e : SyntaxError} {s s' : Scan} {ts : List Lexeme} (h : e.Within s')
    (hs : s.Leaves s' ts) : e.Within s := by
  obtain ⟨s'', us, rfl, he⟩ := h
  exact ⟨s'', ts ++ us, by rw [hs.eq, Scan.prepend_append], he⟩

namespace Parser

variable {α β : Type} {s s' : Scan} {t : Token} {m : Parser α} {f : α → Parser β}

/-- The reader takes lexemes of those that are left, or fails within them. -/
def RunsOn (m : Parser α) (s : Scan) : Prop :=
  match m s with
  | .ok (_, s') => ∃ ts, s.Leaves s' ts
  | .error e => e.Within s

/-- The reader runs on whatever is left. -/
def Careful (m : Parser α) : Prop := ∀ ⦃s⦄, s.Settled → RunsOn m s

/-! ## 2. Sequences -/

theorem RunsOn.leaves (h : RunsOn m s) {a : α} (hm : m s = .ok (a, s')) : ∃ ts, s.Leaves s' ts := by
  rw [RunsOn, hm] at h
  exact h

theorem RunsOn.within (h : RunsOn m s) {e : SyntaxError} (hm : m s = .error e) : e.Within s := by
  rw [RunsOn, hm] at h
  exact h

theorem runsOn_pure (hs : s.Settled) (a : α) : RunsOn (pure a) s := ⟨[], .refl hs⟩

theorem runsOn_fail (hs : s.Settled) {fault : SyntaxFault} (h : fault.PointsAt s.token) :
    RunsOn (fail fault : Parser α) s := ⟨s, [], rfl, .token hs h⟩

/-- A sequence fails within what its first part was given, whichever part fails. -/
theorem RunsOn.bind (hm : RunsOn m s) (hf : ∀ a s', s'.Settled → RunsOn (f a) s') :
    RunsOn (m >>= f) s := by
  cases hresult : m s with
  | error e =>
    have herror : (m >>= f) s = .error e := Except.bind_eq_error.mpr (.inl hresult)
    rw [RunsOn, herror]
    exact hm.within hresult
  | ok r =>
    obtain ⟨a, s₁⟩ := r
    obtain ⟨ts, hfirst⟩ := hm.leaves hresult
    have hrest := hf a s₁ hfirst.settled
    rw [RunsOn, bind_of_ok hresult]
    cases hsecond : f a s₁ with
    | error e => exact (hrest.within hsecond).behind hfirst
    | ok r =>
      obtain ⟨us, hsecond⟩ := hrest.leaves hsecond
      exact ⟨ts ++ us, hfirst.trans hsecond⟩

theorem careful_pure (a : α) : Careful (pure a) := fun _ hs => runsOn_pure hs a

theorem Careful.bind (hm : Careful m) (hf : ∀ a, Careful (f a)) : Careful (m >>= f) :=
  fun _ hs => (hm hs).bind fun a _ => @hf a _

theorem Careful.map (hm : Careful m) (f : α → β) : Careful (f <$> m) := by
  rw [map_eq_pure_bind]
  exact hm.bind fun a => careful_pure (f a)

theorem Careful.ite {p : Prop} [Decidable p] {m' : Parser α} (hm : Careful m) (hm' : Careful m') :
    Careful (if p then m else m') := by
  split
  · exact hm
  · exact hm'

theorem runsOn_place_bind {f : Position → Parser α} (h : RunsOn (f s.position) s) :
    RunsOn (place >>= f) s := h

theorem runsOn_peek_bind {f : Token → Parser α} (h : RunsOn (f s.token) s) : RunsOn (peek >>= f) s := h

/-! ## 3. Single tokens -/

theorem careful_peek : Careful peek := fun _ hs => ⟨[], .refl hs⟩

theorem careful_place : Careful place := fun _ hs => ⟨[], .refl hs⟩

theorem careful_expected (what : String) : Careful (expected what : Parser α) :=
  fun _ hs => runsOn_peek_bind (runsOn_fail hs .expected)

/-- Behind the token that is dropped may stand a text that is no lexeme. -/
theorem careful_advance : Careful advance := by
  intro s hs
  cases s with
  | stop p => exact ⟨[], .refl hs⟩
  | fault e => exact absurd rfl (hs e)
  | lexeme l rest =>
    cases rest with
    | fault e => exact ⟨.fault e, [l], rfl, .lexical⟩
    | stop p | lexeme l' rest => exact ⟨[l], rfl, nofun⟩

theorem careful_accept (t : Token) : Careful (accept t) :=
  careful_peek.bind fun _ => .ite (careful_advance.bind fun _ => careful_pure true) (careful_pure false)

theorem careful_acceptWord (word : String) : Careful (acceptWord word) :=
  careful_peek.bind fun _ => .ite (careful_advance.bind fun _ => careful_pure true) (careful_pure false)

theorem careful_expect (t : Token) : Careful (expect t) :=
  (careful_accept t).bind fun _ => .ite (careful_pure ()) (careful_expected _)

theorem careful_identifier (what : String) : Careful (identifier what) := by
  refine careful_peek.bind fun t => ?_
  split
  · exact careful_advance.bind fun _ => careful_pure _
  · exact careful_expected what

theorem careful_string (what : String) : Careful (string what) := by
  refine careful_peek.bind fun t => ?_
  split
  · exact careful_advance.bind fun _ => careful_pure _
  · exact careful_expected _

theorem careful_optional (keyword : Token) (hm : Careful m) : Careful (optional keyword m) :=
  (careful_accept keyword).bind fun _ => .ite (hm.map some) (careful_pure none)

theorem careful_optionalParens (hm : Careful m) : Careful (optionalParens m) := by
  refine (careful_accept .lparen).bind fun found => hm.bind fun a => ?_
  exact .ite ((careful_expect .rparen).bind fun _ => careful_pure a) (careful_pure a)

theorem careful_commaList (hm : Careful m) (n : Nat) : Careful (commaList m n) := by
  induction n with
  | zero => exact careful_pure []
  | succ n ih =>
    refine hm.bind fun a => (careful_accept .comma).bind fun found => ?_
    exact .ite (ih.bind fun as => careful_pure (a :: as)) (careful_pure [a])

/-! ## 4. Expressions -/

section Levels

variable {op? : Token → Option Operator} {operand primary expression : Parser Expr}

theorem careful_chainFrom (hoperand : Careful operand) (n : Nat) (left : Expr) :
    Careful (chainFrom op? operand n left) := by
  induction n generalizing left with
  | zero => exact careful_pure left
  | succ n ih =>
    refine careful_peek.bind fun t => ?_
    split
    · exact careful_pure left
    · refine careful_place.bind fun position => careful_advance.bind fun _ => ?_
      exact hoperand.bind fun right => ih _

theorem careful_chain (hoperand : Careful operand) (n : Nat) : Careful (chain op? operand n) :=
  hoperand.bind fun first => careful_chainFrom hoperand n first

theorem careful_comparison (hprimary : Careful primary) (n : Nat) : Careful (comparison primary n) :=
  careful_chain (careful_chain (careful_chain hprimary n) n) 1

theorem careful_negation (hprimary : Careful primary) (n depth : Nat) :
    Careful (negation primary n depth) := by
  induction depth with
  | zero => exact careful_comparison hprimary n
  | succ depth ih =>
    refine (careful_accept .not).bind fun found => .ite ?_ (careful_comparison hprimary n)
    exact ih.bind fun e => careful_pure _

theorem careful_ladder (hprimary : Careful primary) (n : Nat) : Careful (ladder primary n) :=
  careful_chain (careful_chain (careful_negation hprimary n n) n) n

theorem careful_take : Careful take := by
  refine (careful_acceptWord "text").bind fun _ => .ite (careful_pure _) ?_
  refine (careful_acceptWord "html").bind fun _ => .ite (careful_pure _) ?_
  refine (careful_acceptWord "attribute").bind fun _ => .ite ?_ (careful_expected _)
  exact (careful_string _).bind fun name => careful_pure _

-- A replacement without a pattern is refused at its keyword.
theorem careful_replacement (pattern : Option String) : Careful (replacement pattern) := by
  intro s hs
  refine runsOn_peek_bind ?_
  by_cases ht : s.token = .replace
  · rw [if_pos ht]
    have hrest : Careful (advance >>= fun _ => string "replacement template" >>= fun text =>
        pure (some text)) := careful_advance.bind fun _ => (careful_string _).bind fun _ => careful_pure _
    cases pattern with
    | none => exact (runsOn_fail hs (ht ▸ .replaceWithoutMatch)).bind fun _ _ hs' => hrest hs'
    | some pattern => exact hrest hs
  · rw [if_neg ht]
    exact runsOn_pure hs none

theorem careful_pick : Careful pick := by
  rw [pick_eq]
  refine (careful_string _).bind fun selector => ?_
  refine (careful_optional .take careful_take).bind fun take => ?_
  refine (careful_optional .match (careful_string _)).bind fun pattern => ?_
  exact (careful_replacement pattern).bind fun replace => careful_pure _

theorem careful_branches (hexpression : Careful expression) (n : Nat) :
    Careful (branches expression n) := by
  induction n with
  | zero => exact careful_expected _
  | succ n ih =>
    refine (careful_accept .when).bind fun _ => .ite ?_ ?_
    · refine hexpression.bind fun condition => (careful_expect .then).bind fun _ => ?_
      exact hexpression.bind fun result => ih.bind fun b => careful_pure _
    · refine (careful_accept .else).bind fun _ => .ite ?_ ?_
      · exact hexpression.bind fun result => (careful_expect .end).bind fun _ => careful_pure _
      · exact (careful_expect .end).bind fun _ => careful_pure _

theorem careful_caseRest (hexpression : Careful expression) (n : Nat) (position : Position)
    (subject : Option Expr) : Careful (caseRest expression n position subject) := by
  intro s hs
  refine runsOn_peek_bind ?_
  by_cases ht : s.token = .when
  · rw [if_pos ht]
    refine (careful_branches hexpression n).bind (fun b => ?_) hs
    cases subject <;> exact careful_pure _
  · rw [if_neg ht]
    refine (runsOn_fail hs (.caseWithoutWhen ht)).bind fun _ _ hs' => ?_
    refine (careful_branches hexpression n).bind (fun b => ?_) hs'
    cases subject <;> exact careful_pure _

theorem careful_case (hexpression : Careful expression) (n : Nat) (position : Position) :
    Careful (case expression n position) := by
  rw [case_eq]
  refine careful_peek.bind fun _ => .ite (careful_caseRest hexpression n position none) ?_
  exact hexpression.bind fun subject => careful_caseRest hexpression n position (some subject)

theorem careful_primary (n : Nat) : Careful (Parser.primary n) := by
  induction n with
  | zero => exact fun _ hs => runsOn_peek_bind (runsOn_fail hs .noExpression)
  | succ n ih =>
    intro s hs
    have hexpression : Careful (ladder (Parser.primary n) n) := careful_ladder ih n
    rw [primary_succ]
    refine runsOn_place_bind (runsOn_peek_bind ?_)
    -- Whatever follows the first token is read by careful readers. No token is taken before a refusal.
    cases htoken : s.token with
    | float _ | integer _ | string _ | boolean _ | null | identifier _ =>
      exact careful_advance.bind (fun _ => careful_pure _) hs
    | pick => exact careful_advance.bind (fun _ => careful_pick.bind fun p => careful_pure _) hs
    | case => exact careful_advance.bind (fun _ => careful_case hexpression n _) hs
    | lparen =>
      refine careful_advance.bind (fun _ => hexpression.bind fun inner => ?_) hs
      exact (careful_expect .rparen).bind fun _ => careful_pure inner
    | minus => exact careful_advance.bind (fun _ => ih.bind fun e => careful_pure _) hs
    | _ => exact runsOn_fail hs (htoken ▸ .noExpression)

end Levels

theorem careful_expression (n : Nat) : Careful (expression n) :=
  careful_ladder (careful_primary (n + 1)) (n + 1)

/-! ## 5. Statements -/

theorem careful_threadCount : Careful threadCount := by
  refine careful_peek.bind fun t => ?_
  split
  · exact careful_advance.bind fun _ => careful_pure _
  · exact careful_expected _

theorem careful_hint : Careful hint := by
  rw [hint_eq]
  refine careful_place.bind fun position => (careful_acceptWord "js").bind fun _ => .ite (careful_pure _) ?_
  have hcount : Careful (optionalParens threadCount >>= fun count => pure (Hint.thread count position)) :=
    (careful_optionalParens careful_threadCount).bind fun _ => careful_pure _
  refine (careful_acceptWord "thread").bind fun _ => .ite hcount ?_
  exact (careful_expected _).bind fun _ => hcount

theorem careful_hints (bound clauses : Nat) : Careful (hints bound clauses) := by
  induction clauses with
  | zero => exact careful_pure []
  | succ clauses ih =>
    refine (careful_accept .with).bind fun _ => .ite ?_ (careful_pure [])
    refine (careful_optionalParens (careful_commaList careful_hint bound)).bind fun clause => ?_
    exact ih.bind fun more => careful_pure _

theorem careful_label : Careful label := by
  refine careful_peek.bind fun t => ?_
  split
  · exact careful_advance.bind fun _ => careful_pure _
  · exact careful_advance.bind fun _ => careful_pure _
  · exact careful_expected _

theorem careful_projection (n : Nat) : Careful (projection n) := by
  rw [projection_eq]
  refine careful_place.bind fun position => (careful_accept .star).bind fun _ => .ite (careful_pure _) ?_
  refine (careful_expression n).bind fun e => (careful_optional .as careful_label).bind fun label => ?_
  exact careful_pure _

theorem careful_downloadKind : Careful downloadKind := by
  refine (careful_acceptWord "page").bind fun _ => .ite (careful_pure _) ?_
  refine (careful_acceptWord "json").bind fun _ => .ite (careful_pure _) ?_
  exact (careful_acceptWord "image").bind fun _ => .ite (careful_pure _) (careful_expected _)

section Selects

variable {inner : Parser (Select Unit)} {bound : Nat}

theorem careful_source (hinner : Careful inner) : Careful (source inner bound) := by
  refine careful_place.bind fun position => careful_peek.bind fun t => ?_
  split
  · refine careful_advance.bind fun _ => careful_downloadKind.bind fun kind => careful_peek.bind fun t => ?_
    split
    · exact careful_advance.bind fun _ => (careful_hints bound bound).bind fun hints => careful_pure _
    · refine careful_advance.bind fun _ => hinner.bind fun urls => (careful_expect .rparen).bind fun _ => ?_
      exact (careful_hints bound bound).bind fun hints => careful_pure _
    · exact careful_expected _
  · exact careful_advance.bind fun _ => careful_pure _
  · exact careful_expected _

theorem careful_clauses (projections : List Projection) (source : Source Unit) (position : Position) :
    Careful (clauses bound projections source position) := by
  refine (careful_optional .where (careful_expression bound)).bind fun filter => ?_
  exact (careful_hints bound bound).bind fun hints => careful_pure _

theorem careful_select (depth : Nat) : Careful (select bound depth) := by
  induction depth with
  | zero => exact careful_expected _
  | succ depth ih =>
    rw [select_succ]
    refine careful_place.bind fun position => (careful_expect .select).bind fun _ => ?_
    refine (careful_commaList (careful_projection bound) bound).bind fun projections => ?_
    have hsource : Careful (sourceClause (select bound depth) bound) :=
      (careful_accept .from).bind fun _ => .ite (careful_source ih) (careful_pure _)
    exact hsource.bind fun source => careful_clauses projections source position

end Selects

variable {bound : Nat}

theorem careful_columnDecl : Careful columnDecl := by
  refine careful_place.bind fun position => (careful_identifier _).bind fun name => ?_
  refine (careful_identifier _).bind fun typeName => ?_
  exact (careful_acceptWord "identity").bind fun _ => careful_pure _

theorem careful_createBuffer : Careful (createBuffer bound) := by
  refine careful_place.bind fun position => careful_advance.bind fun _ => ?_
  refine (careful_expect .buffer).bind fun _ => (careful_identifier _).bind fun name => ?_
  refine (careful_expect .lparen).bind fun _ => (careful_commaList careful_columnDecl bound).bind fun _ => ?_
  exact (careful_expect .rparen).bind fun _ => careful_pure _

theorem careful_targets : Careful (targets bound) := by
  refine (careful_accept .lparen).bind fun _ => .ite ?_ (careful_pure none)
  refine (careful_commaList (careful_identifier _) bound).bind fun names => ?_
  exact (careful_expect .rparen).bind fun _ => careful_pure _

theorem careful_insert : Careful (insert bound) := by
  rw [insert_eq]
  refine careful_place.bind fun position => careful_advance.bind fun _ => ?_
  refine (careful_expect .into).bind fun _ => (careful_identifier _).bind fun target => ?_
  refine careful_targets.bind fun columns => careful_peek.bind fun t => ?_
  have hquery : Careful (select bound bound >>= fun query =>
      pure (Statement.insert target columns query position)) :=
    (careful_select bound).bind fun _ => careful_pure _
  exact .ite hquery ((careful_expected _).bind fun _ => hquery)

theorem careful_statement : Careful (statement bound) := by
  refine careful_peek.bind fun t => ?_
  split
  · exact careful_createBuffer
  · exact careful_insert
  · exact (careful_select bound).bind fun query => careful_pure _
  · exact careful_expected _

theorem careful_program (steps : Nat) : Careful (program bound steps) := by
  induction steps with
  | zero => exact careful_pure []
  | succ steps ih =>
    refine careful_peek.bind fun t => ?_
    split
    · exact careful_advance.bind fun _ => ih
    · exact careful_pure []
    · exact careful_statement.bind fun st => ih.bind fun rest => careful_pure _

end Parser

/-! ## 6. Scripts -/

theorem Scan.lexemes_prepend (s : Scan) (ts : List Lexeme) : (s.prepend ts).lexemes = ts ++ s.lexemes := by
  induction ts with
  | nil => rfl
  | cons l ts ih => exact congrArg (l :: ·) ih

theorem Scan.Settled.first_mem_lexemes {s : Scan} (h : s.Settled) : ⟨s.token, s.position⟩ ∈ s.lexemes := by
  cases s with
  | stop p => exact List.mem_singleton_self _
  | fault e => exact absurd rfl (h e)
  | lexeme l rest => exact List.mem_cons_self

/-- Tokens and errors are where their characters start. -/
theorem Scanned.startsIn {p : Position} {cs : List Char} {s : Scan} (h : Scanned p cs s)
    {before : List Char} (hp : p = Position.behind before) :
    (∀ l ∈ s.lexemes, l.StartsIn (before ++ cs)) ∧
      ∀ e ts, s = (Scan.fault e).prepend ts → e.StartsIn (before ++ cs) := by
  induction h generalizing before with
  | @stop p cs hsplit =>
    subst hp
    refine ⟨List.forall_mem_singleton.mpr ?_, fun e ts hs => ?_⟩
    · rw [Position.after_behind]
      exact .eof
    · cases ts <;> cases hs
  | @fault p cs trivia rest c fault hsplit hcut =>
    subst hp
    have hcs := splitTrivia_append false cs
    rw [hsplit] at hcs
    refine ⟨List.forall_mem_nil _, fun e ts hs => ?_⟩
    cases ts with
    | cons l ts => cases hs
    | nil =>
      cases hs
      rw [Position.after_behind, ← hcs, ← List.append_assoc]
      exact .intro rfl hcut
  | @lexeme p cs trivia spelled rest c cut s hsplit hcut hsize _ ih =>
    subst hp
    have hcs := splitTrivia_append false cs
    rw [hsplit] at hcs
    have hplace : ((Position.behind before).after trivia).after (c :: spelled) =
        Position.behind (before ++ trivia ++ c :: spelled) := by
      rw [Position.after_behind, Position.after_behind]
    have hsource : before ++ trivia ++ c :: spelled ++ rest = before ++ cs := by
      rw [← hcs]
      simp only [List.append_assoc, List.cons_append]
    obtain ⟨htokens, herrors⟩ := ih hplace
    rw [hsource] at htokens herrors
    refine ⟨List.forall_mem_cons.mpr ⟨?_, htokens⟩, fun e ts hs => ?_⟩
    · rw [Position.after_behind, ← hcs, ← List.append_assoc]
      exact .cut rfl hcut
    · cases ts with
      | nil => cases hs
      | cons l ts => exact herrors e ts (Scan.lexeme.inj hs).2

/-- A token of a script is where its characters start. -/
theorem startsIn_of_mem_lexemes {source : String} {l : Lexeme} (h : l ∈ (scan source).lexemes) :
    l.StartsIn source.toList :=
  ((scanned_scanFrom Position.start source.toList).startsIn (show _ = Position.behind [] from rfl)).1 l h

/-- What cannot be scanned is where its characters start. -/
theorem startsIn_of_scan {source : String} {e : LexError} {ts : List Lexeme}
    (h : scan source = (Scan.fault e).prepend ts) : e.StartsIn source.toList :=
  ((scanned_scanFrom Position.start source.toList).startsIn (show _ = Position.behind [] from rfl)).2 e ts h

/-- A script that is not in the language has an error at one of its tokens, or where it has none. -/
theorem within_of_parseProgram {source : String} {e : SyntaxError} (h : parseProgram source = .error e) :
    e.Within (scan source) := by
  rw [parseProgram_eq] at h
  rcases Except.bind_eq_error.mp h with h | ⟨s, hsettle, h⟩
  · cases hscan : scan source with
    | fault e' =>
      rw [hscan] at h
      cases h
      exact ⟨.fault e', [], rfl, .lexical⟩
    | stop p | lexeme l rest =>
      rw [hscan] at h
      cases h
  · obtain ⟨hsettled, rfl⟩ := settle_eq_ok.mp hsettle
    rcases Except.bind_eq_error.mp h with h | ⟨_, _, h⟩
    · exact (Parser.careful_program _ hsettled).within h
    · cases h

end Quarry.Script
