import Quarry.Proofs.Except
import Quarry.Proofs.Script.Grammar

/-!
# Steps of readers

What the smallest readers do with the lexemes that are left: when they go on, and what they leave if they
do.
-/

namespace Quarry.Script

/-! ## 1. Lexemes that are left -/

namespace Scan

/-- The scan with lexemes in front. -/
def prepend (s : Scan) : List Lexeme → Scan
  | [] => s
  | l :: ts => .lexeme l (s.prepend ts)

theorem prepend_append (s : Scan) (ts us : List Lexeme) :
    s.prepend (ts ++ us) = (s.prepend us).prepend ts := by
  induction ts with
  | nil => rfl
  | cons l ts ih => exact congrArg (Scan.lexeme l) ih

theorem size_prepend (s : Scan) (ts : List Lexeme) : (s.prepend ts).size = ts.length + s.size := by
  induction ts with
  | nil => simp [prepend]
  | cons l ts ih =>
    simp only [prepend, size, ih, List.length_cons]
    omega

/-- What is left does not start with a text that is no lexeme. -/
def Settled (s : Scan) : Prop := ∀ e, s ≠ .fault e

theorem settled_stop (p : Position) : (Scan.stop p).Settled := nofun

theorem settled_lexeme (l : Lexeme) (s : Scan) : (Scan.lexeme l s).Settled := nofun

theorem Settled.prepend {s : Scan} (h : s.Settled) (ts : List Lexeme) : (s.prepend ts).Settled := by
  cases ts with
  | nil => exact h
  | cons l ts => exact settled_lexeme l _

-- Only the end of a script has the token for it in place of a lexeme.
theorem exists_lexeme {s : Scan} {t : Token} (h : s.token = t) (ht : t ≠ .eof) :
    ∃ l s', s = .lexeme l s' ∧ l.token = t := by
  cases s with
  | stop p | fault e => exact absurd h.symm ht
  | lexeme l s' => exact ⟨l, s', rfl, h⟩

/-- A reader took lexemes and left the rest. -/
structure Leaves (s s' : Scan) (ts : List Lexeme) : Prop where
  eq : s = s'.prepend ts
  settled : s'.Settled

theorem Leaves.refl {s : Scan} (h : s.Settled) : s.Leaves s [] := ⟨rfl, h⟩

theorem Leaves.trans {s s' s'' : Scan} {ts us : List Lexeme} (h : s.Leaves s' ts)
    (h' : s'.Leaves s'' us) : s.Leaves s'' (ts ++ us) :=
  ⟨by rw [h.eq, h'.eq, prepend_append], h'.settled⟩

theorem Leaves.size {s s' : Scan} {ts : List Lexeme} (h : s.Leaves s' ts) :
    s.size = ts.length + s'.size := by
  rw [h.eq, size_prepend]

theorem Leaves.position {s s' : Scan} {l : Lexeme} {ts : List Lexeme} (h : s.Leaves s' (l :: ts)) :
    s.position = l.position := by
  rw [h.eq]
  rfl

theorem Leaves.size_lt {s s' : Scan} {ts : List Lexeme} {bound : Nat} (h : s.Leaves s' ts)
    (hsize : s.size < bound) : s'.size < bound := by
  have := h.size
  omega

end Scan

namespace Parser

open Scan (Leaves)

variable {α β : Type} {s s' : Scan} {l : Lexeme} {ts : List Lexeme} {t : Token}

/-! ## 2. Sequences -/

theorem bind_eq_ok {m : Parser α} {f : α → Parser β} {r : β × Scan} :
    (m >>= f) s = .ok r ↔ ∃ a s', m s = .ok (a, s') ∧ f a s' = .ok r := by
  constructor
  · intro h
    obtain ⟨⟨a, s'⟩, hm, hf⟩ := Except.bind_eq_ok.mp h
    exact ⟨a, s', hm, hf⟩
  · rintro ⟨a, s', hm, hf⟩
    exact Except.bind_eq_ok.mpr ⟨(a, s'), hm, hf⟩

-- A reader that has a result hands what it left to the next one.
theorem bind_of_ok {m : Parser α} {f : α → Parser β} {a : α} (h : m s = .ok (a, s')) :
    (m >>= f) s = f a s' := by
  show (m s >>= fun p => f p.1 p.2) = _
  rw [h]
  rfl

theorem map_eq_ok {m : Parser α} {f : α → β} {b : β} :
    (f <$> m) s = .ok (b, s') ↔ ∃ a, m s = .ok (a, s') ∧ f a = b := by
  constructor
  · intro h
    obtain ⟨⟨a, s''⟩, hm, hf⟩ := Except.bind_eq_ok.mp h
    cases hf
    exact ⟨a, hm, rfl⟩
  · rintro ⟨a, hm, rfl⟩
    exact Except.bind_eq_ok.mpr ⟨(a, s'), hm, rfl⟩

theorem place_bind (f : Position → Parser α) : (place >>= f) s = f s.position s := rfl

theorem peek_bind (f : Token → Parser α) : (peek >>= f) s = f s.token s := rfl

theorem expected_ne_ok {what : String} {r : α × Scan} : (expected what : Parser α) s ≠ .ok r := nofun

/-! ## 3. What is accepted -/

theorem advance_lexeme (hs : s.Settled) : advance (.lexeme l s) = .ok ((), s) := by
  cases s with
  | fault e => exact absurd rfl (hs e)
  | stop p | lexeme l s => rfl

theorem accept_lexeme (hl : l.token = t) (hs : s.Settled) : accept t (.lexeme l s) = .ok (true, s) := by
  show (if l.token = t then advance >>= fun _ => pure true else pure false) (.lexeme l s) = _
  rw [if_pos hl, bind_of_ok (advance_lexeme hs)]
  rfl

theorem accept_of_ne (h : s.token ≠ t) : accept t s = .ok (false, s) := by
  show (if s.token = t then advance >>= fun _ => pure true else pure false) s = _
  rw [if_neg h]
  rfl

theorem expect_lexeme (hl : l.token = t) (hs : s.Settled) : expect t (.lexeme l s) = .ok ((), s) :=
  bind_of_ok (accept_lexeme hl hs)

theorem acceptWord_lexeme {word : String} (hl : l.token.isWord word) (hs : s.Settled) :
    acceptWord word (.lexeme l s) = .ok (true, s) := by
  show (if l.token.isWord word then advance >>= fun _ => pure true else pure false)
    (.lexeme l s) = _
  rw [if_pos hl, bind_of_ok (advance_lexeme hs)]
  rfl

theorem acceptWord_of_not {word : String} (h : ¬s.token.isWord word) :
    acceptWord word s = .ok (false, s) := by
  show (if s.token.isWord word then advance >>= fun _ => pure true else pure false) s = _
  rw [if_neg h]
  rfl

-- A token is one word at most.
theorem not_isWord {a b : String} (h : t.isWord a) (hne : a ≠ b) : ¬t.isWord b := by
  cases t with
  | identifier name =>
    simp only [Token.isWord, beq_iff_eq] at h ⊢
    rw [h]
    exact hne
  | _ => cases h

theorem identifier_lexeme {what name : String} (hl : l.token = .identifier name) (hs : s.Settled) :
    identifier what (.lexeme l s) = .ok (name, s) := by
  rw [identifier, peek_bind, Scan.token, hl]
  exact bind_of_ok (advance_lexeme hs)

theorem string_lexeme {what text : String} (hl : l.token = .string text) (hs : s.Settled) :
    string what (.lexeme l s) = .ok (text, s) := by
  rw [string, peek_bind, Scan.token, hl]
  exact bind_of_ok (advance_lexeme hs)

/-! ## 4. What is left -/

theorem advance_eq_ok {u : Unit} (h : advance s = .ok (u, s')) (hs : s.token ≠ .eof) :
    ∃ l, l.token = s.token ∧ s.Leaves s' [l] := by
  obtain ⟨l, rest, rfl, hl⟩ := Scan.exists_lexeme rfl hs
  obtain ⟨rest', hsettle, hrest⟩ := Except.map_eq_ok.mp h
  cases hrest
  refine ⟨l, hl, ?_⟩
  cases rest with
  | fault e => cases hsettle
  | stop p | lexeme l' rest =>
    cases hsettle
    exact ⟨rfl, nofun⟩

theorem advance_bind_eq_ok {f : Unit → Parser α} {r : α × Scan} (h : (advance >>= f) s = .ok r)
    (hs : s.token = t) (ht : t ≠ .eof) :
    ∃ l s₁, l.token = t ∧ s.Leaves s₁ [l] ∧ f () s₁ = .ok r := by
  obtain ⟨u, s₁, hadvance, h⟩ := bind_eq_ok.mp h
  obtain ⟨l, hl, hleaves⟩ := advance_eq_ok hadvance (hs ▸ ht)
  exact ⟨l, s₁, hl.trans hs, hleaves, h⟩

/-- The token is dropped if it is the given one, and else nothing is done. -/
theorem accept_eq_ok {found : Bool} (h : accept t s = .ok (found, s')) (ht : t ≠ .eof) :
    (found = true ∧ ∃ l, l.token = t ∧ s.Leaves s' [l]) ∨ (found = false ∧ s.token ≠ t ∧ s = s') := by
  replace h : (if s.token = t then advance >>= fun _ => pure true else pure false : Parser Bool) s =
    .ok (found, s') := h
  by_cases htoken : s.token = t
  · rw [if_pos htoken] at h
    obtain ⟨l, s₁, hl, hleaves, h⟩ := advance_bind_eq_ok h htoken ht
    cases h
    exact Or.inl ⟨rfl, l, hl, hleaves⟩
  · rw [if_neg htoken] at h
    cases h
    exact Or.inr ⟨rfl, htoken, rfl⟩

theorem expect_eq_ok {u : Unit} (h : expect t s = .ok (u, s')) (ht : t ≠ .eof) :
    ∃ l, l.token = t ∧ s.Leaves s' [l] := by
  obtain ⟨found, s'', haccept, h⟩ := bind_eq_ok.mp h
  rcases accept_eq_ok haccept ht with ⟨rfl, l, hl, hleaves⟩ | ⟨rfl, _, _⟩
  · cases h
    exact ⟨l, hl, hleaves⟩
  · exact absurd h expected_ne_ok

theorem expect_bind_eq_ok {f : Unit → Parser α} {r : α × Scan} (h : (expect t >>= f) s = .ok r)
    (ht : t ≠ .eof) : ∃ l s₁, l.token = t ∧ s.Leaves s₁ [l] ∧ f () s₁ = .ok r := by
  obtain ⟨u, s₁, hexpect, h⟩ := bind_eq_ok.mp h
  obtain ⟨l, hl, hleaves⟩ := expect_eq_ok hexpect ht
  exact ⟨l, s₁, hl, hleaves, h⟩

theorem acceptWord_eq_ok {word : String} {found : Bool} (h : acceptWord word s = .ok (found, s')) :
    (found = true ∧ ∃ l, l.token.isWord word ∧ s.Leaves s' [l]) ∨
      (found = false ∧ ¬s.token.isWord word ∧ s = s') := by
  replace h : (if s.token.isWord word then advance >>= fun _ => pure true else pure false :
    Parser Bool) s = .ok (found, s') := h
  by_cases hword : s.token.isWord word
  · rw [if_pos hword] at h
    have heof : s.token ≠ .eof := fun heof => by
      rw [heof] at hword
      cases hword
    obtain ⟨l, s₁, hl, hleaves, h⟩ := advance_bind_eq_ok h rfl heof
    cases h
    exact Or.inl ⟨rfl, l, hl ▸ hword, hleaves⟩
  · rw [if_neg hword] at h
    cases h
    exact Or.inr ⟨rfl, hword, rfl⟩

theorem identifier_eq_ok {what name : String} (h : identifier what s = .ok (name, s')) :
    ∃ l, l.token = .identifier name ∧ s.Leaves s' [l] := by
  obtain ⟨t, s'', hpeek, h⟩ := bind_eq_ok.mp h
  cases hpeek
  cases htoken : s.token with
  | identifier name' =>
    rw [htoken] at h
    obtain ⟨l, s₁, hl, hleaves, h⟩ := advance_bind_eq_ok h htoken nofun
    cases h
    exact ⟨l, hl, hleaves⟩
  | _ =>
    rw [htoken] at h
    exact absurd h expected_ne_ok

theorem string_eq_ok {what text : String} (h : string what s = .ok (text, s')) :
    ∃ l, l.token = .string text ∧ s.Leaves s' [l] := by
  obtain ⟨t, s'', hpeek, h⟩ := bind_eq_ok.mp h
  cases hpeek
  cases htoken : s.token with
  | string text' =>
    rw [htoken] at h
    obtain ⟨l, s₁, hl, hleaves, h⟩ := advance_bind_eq_ok h htoken nofun
    cases h
    exact ⟨l, hl, hleaves⟩
  | _ =>
    rw [htoken] at h
    exact absurd h expected_ne_ok

/-! ## 5. Readers in steps -/

/-- Reads an item behind a keyword, if the keyword is there. -/
def optional (keyword : Token) (item : Parser α) : Parser (Option α) := do
  if ← accept keyword then some <$> item else return none

theorem optional_bind (keyword : Token) (item : Parser α) (f : Option α → Parser β) :
    (accept keyword >>= fun found =>
      if found = true then (some <$> item) >>= f else pure none >>= f) =
        optional keyword item >>= f := by
  rw [optional, bind_assoc]
  refine bind_congr fun found => ?_
  cases found <;> rfl

/-- Reads what a match is replaced with, if it is. -/
def replacement (pattern : Option String) : Parser (Option String) := do
  if (← peek) = .replace then
    if pattern.isNone then fail .replaceWithoutMatch
    advance
    return some (← string "replacement template")
  else return none

theorem pick_eq : pick = (do
    let selector ← string "selector"
    let take ← optional .take take
    let pattern ← optional .match (string "regular expression")
    let replace ← replacement pattern
    return ⟨selector, take, pattern, replace⟩) := by
  unfold pick
  simp only [optional_bind]
  refine bind_congr fun selector => bind_congr fun take => bind_congr fun pattern => ?_
  rw [replacement, bind_assoc]
  refine bind_congr fun t => ?_
  by_cases ht : t = .replace
  · simp only [if_pos ht]
    cases pattern with
    | none => rfl
    | some pattern =>
      simp only [Option.isNone_some, Bool.false_eq_true, if_false, bind_assoc, pure_bind]
  · simp only [if_neg ht, pure_bind]

/-- Reads what comes after the subject of a case, if it has one. -/
def caseRest (expression : Parser Expr) (bound : Nat) (position : Position)
    (subject : Option Expr) : Parser Expr := do
  unless (← peek) = .when do fail .caseWithoutWhen
  let branches ← branches expression bound
  match subject with
  | none => return .searchedCase branches position
  | some subject => return .simpleCase subject branches position

theorem case_eq (expression : Parser Expr) (bound : Nat) (position : Position) :
    case expression bound position = (do
      if (← peek) = .when then caseRest expression bound position none
      else caseRest expression bound position (some (← expression))) := by
  unfold case
  refine bind_congr fun t => ?_
  by_cases ht : t = .when
  · rw [if_pos ht, if_pos ht]
    rfl
  · rw [if_neg ht, if_neg ht]
    simp only [bind_map_left]
    rfl

/-- Reads the number of threads of a hint. -/
def threadCount : Parser Int64 := do
  match ← peek with
  | .integer count =>
    advance
    return count
  | _ => expected "thread count"

theorem optionalParens_map (f : α → β) (inner : Parser α) :
    optionalParens (f <$> inner) = f <$> optionalParens inner := by
  unfold optionalParens
  simp only [map_bind, bind_map_left]
  refine bind_congr fun found => bind_congr fun a => ?_
  cases found with
  | false => rfl
  | true => simp only [if_true, map_bind, map_pure]

theorem hint_eq : hint = (do
    let position ← place
    if ← acceptWord "js" then return .js
    unless ← acceptWord "thread" do expected "'thread'"
    return .thread (← optionalParens threadCount) position) := by
  unfold hint
  refine bind_congr fun position => bind_congr fun js => ?_
  cases js with
  | true => rfl
  | false =>
    refine bind_congr fun thread => ?_
    have hinner : (do
        match ← peek with
        | .integer count =>
          advance
          return .thread count position
        | _ => expected "thread count" : Parser Hint) = (Hint.thread · position) <$> threadCount := by
      rw [threadCount, map_bind]
      refine bind_congr fun t => ?_
      cases t with
      | integer count => simp only [map_bind, map_pure]
      | _ => rfl
    have hcount := (congrArg optionalParens hinner).trans (optionalParens_map _ threadCount)
    rw [map_eq_pure_bind] at hcount
    cases thread with
    | true => exact hcount
    | false => exact bind_congr fun _ => hcount

/-- Reads the name of a projection. -/
def label : Parser String := do
  match ← peek with
  | .identifier name | .string name =>
    advance
    return name
  | _ => expected "alias after 'as'"

theorem projection_eq (bound : Nat) : projection bound = (do
    let position ← place
    if ← accept .star then return .star position
    let expr ← expression bound
    let label ← optional .as label
    return .item expr label) := by
  unfold projection
  refine bind_congr fun position => bind_congr fun star => ?_
  cases star with
  | true => rfl
  | false =>
    refine bind_congr fun expr => ?_
    rw [optional, bind_assoc]
    refine bind_congr fun found => ?_
    cases found with
    | false => rfl
    | true =>
      show (peek >>= _ : Parser Projection) = _
      rw [label, if_pos rfl, map_bind, bind_assoc]
      refine bind_congr fun t => ?_
      cases t with
      | identifier name | string name => simp only [map_bind, map_pure, bind_assoc, pure_bind]
      | _ => rfl

/-- Reads the source of a select, if there is one. -/
def sourceClause (inner : Parser (Select Unit)) (bound : Nat) : Parser (Source Unit) := do
  if ← accept .from then source inner bound else pure .nothing

/-- Reads what follows the source of a select. -/
def clauses (bound : Nat) (projections : List Projection) (source : Source Unit)
    (position : Position) : Parser (Select Unit) := do
  let filter ← optional .where (expression bound)
  let hints ← hints bound bound
  return { projections, source, filter, hints, position, note := () }

theorem select_succ (bound depth : Nat) : select bound (depth + 1) = (do
    let position ← place
    expect .select
    let projections ← commaList (projection bound) bound
    let source ← sourceClause (select bound depth) bound
    clauses bound projections source position) := by
  rw [select]
  simp only [optional_bind]
  refine bind_congr fun position => bind_congr fun _ => bind_congr fun projections => ?_
  rw [sourceClause, bind_assoc]
  refine bind_congr fun found => ?_
  cases found <;> rfl

/-- Reads the names of the columns of an insert, if they are there. -/
def targets (bound : Nat) : Parser (Option (List String)) := do
  if ← accept .lparen then
    let names ← commaList (identifier "column name") bound
    expect .rparen
    return some names
  else return none

theorem insert_eq (bound : Nat) : insert bound = (do
    let position ← place
    advance
    expect .into
    let target ← identifier "buffer name"
    let columns ← targets bound
    unless (← peek) = .select do expected s!"'select' after 'insert into {target}'"
    return .insert target columns (← select bound bound) position) := by
  unfold insert
  refine bind_congr fun position => bind_congr fun _ => bind_congr fun _ => bind_congr fun target => ?_
  rw [targets, bind_assoc]
  refine bind_congr fun found => ?_
  cases found with
  | false => rfl
  | true => simp only [if_true, bind_assoc, pure_bind]

end Parser

end Quarry.Script
