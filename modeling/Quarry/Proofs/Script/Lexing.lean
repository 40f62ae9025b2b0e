import Quarry.Proofs.Script.Relocation
import Quarry.Proofs.Script.Steps
import Quarry.Proofs.Text.Blank

/-!
# Scanning in parts

What white space keeps apart is cut apart: no lexeme goes on behind a blank that is not part of it. What a
line break keeps apart is scanned apart, since comments end there too. The place where a text starts
changes where its lexemes are and nothing else.
-/

namespace Quarry.Script

/-! ## 1. White space -/

-- Of the characters that are white space none is one of a word.
theorem continuesWord_of_isBlank {b : Char} (hb : Text.isBlank b) : continuesWord b = false := by
  have hall : ∀ n ∈ [9, 10, 11, 12, 13, 0x20, 0x85, 0xa0, 0x1680, 0x2000, 0x2001, 0x2002, 0x2003,
      0x2004, 0x2005, 0x2006, 0x2007, 0x2008, 0x2009, 0x200a, 0x2028, 0x2029, 0x202f, 0x205f,
      0x3000], continuesWord (Char.ofNat n) = false := by decide +kernel
  have hmem := hall b.toNat (by
    simp only [Text.isBlank, Bool.or_eq_true, Bool.and_eq_true, decide_eq_true_eq, beq_iff_eq] at hb
    simp only [List.mem_cons, List.not_mem_nil, or_false]
    omega)
  rwa [Char.ofNat_toNat] at hmem

-- A character that is no white space differs from any that is.
theorem ne_of_isBlank {b c : Char} (hb : Text.isBlank b) (hc : Text.isBlank c = false) : c ≠ b := by
  rintro rfl
  exact absurd hb (Bool.eq_false_iff.mp hc)

/-! ## 2. One lexeme -/

/-- Cuts a text in quotes, a word or a number. -/
def cutLonger (c : Char) (cs : List Char) : Except LexFault Cut :=
  if c = '\'' ∨ c = '"' then
    match readQuoted? c cs with
    | some (text, n) => .ok ⟨.string (String.ofList text), n + 1⟩
    | none => .error .unterminated
  else if startsWord c then
    .ok ⟨Token.ofWord (String.ofList (c :: cs.takeWhile continuesWord)),
      (c :: cs.takeWhile continuesWord).length⟩
  else if c.isDigit then cutNumber (c :: cs)
  else .error (.unexpected c)

/-- Operators, parentheses and separators. -/
def Token.isSymbol : Token → Bool
  | .comma | .semicolon | .lparen | .rparen | .plus | .minus | .star | .slash | .percent
  | .eq | .notEq | .lt | .gt | .ltEq | .gtEq => true
  | _ => false

/-- A symbol of one or two characters. It stays the same in front of white space. -/
structure Cut.IsSymbol (cut : Cut) (c : Char) (cs : List Char) : Prop where
  token : cut.token.isSymbol
  size_pos : 0 < cut.size
  size_le : cut.size ≤ cs.length + 1
  blank : ∀ {b : Char} (ds : List Char), Text.isBlank b → cutLexeme c (cs ++ b :: ds) = .ok cut

-- White space is not the second character of a symbol.
theorem append_blank_ne {cs : List Char} {b c : Char} (hc : c ≠ b)
    (h : ∀ tail, cs = c :: tail → False) (ds : List Char) :
    ∀ tail, cs ++ b :: ds = c :: tail → False := by
  intro tail htail
  cases cs with
  | nil => exact hc (List.cons.inj htail).1.symm
  | cons d cs => exact h cs (by rw [(List.cons.inj htail).1])

/-- Each lexeme is a symbol, or is cut by what its first character says alone. -/
theorem cutLexeme_cases {c : Char} {cs : List Char} {cut : Cut} (h : cutLexeme c cs = .ok cut) :
    cut.IsSymbol c cs ∨ (∀ cs, cutLexeme c cs = cutLonger c cs) := by
  unfold cutLexeme at h
  split at h
  case h_11 heq =>
    cases h
    exact .inl ⟨rfl, Nat.one_pos, Nat.le_add_left _ _, fun ds hb =>
      cutLexeme.eq_11 _ (append_blank_ne (ne_of_isBlank hb (by decide)) heq ds)⟩
  case h_16 heq hgt =>
    cases h
    exact .inl ⟨rfl, Nat.one_pos, Nat.le_add_left _ _, fun ds hb =>
      cutLexeme.eq_16 _ (append_blank_ne (ne_of_isBlank hb (by decide)) heq ds)
        (append_blank_ne (ne_of_isBlank hb (by decide)) hgt ds)⟩
  case h_18 heq =>
    cases h
    exact .inl ⟨rfl, Nat.one_pos, Nat.le_add_left _ _, fun ds hb =>
      cutLexeme.eq_18 _ (append_blank_ne (ne_of_isBlank hb (by decide)) heq ds)⟩
  case h_19 =>
    refine .inr fun cs => ?_
    rw [cutLexeme]
    · rfl
    all_goals first | assumption | exact fun _ hc => absurd hc (by assumption)
  all_goals cases h
  all_goals
    exact .inl ⟨rfl, by decide, by simp, fun ds _ => rfl⟩

theorem takeWhile_append_of_false {p : Char → Bool} {b : Char} (hp : p b = false)
    (cs ds : List Char) : (cs ++ b :: ds).takeWhile p = cs.takeWhile p := by
  induction cs with
  | nil => simp [hp]
  | cons c cs ih => simp only [List.cons_append, List.takeWhile_cons, ih]

-- A text in quotes ends at its closing quote, whatever follows.
theorem readQuoted?_append {quote b : Char} (hquote : quote ≠ b) {cs text : List Char} {n : Nat}
    (h : readQuoted? quote cs = some (text, n)) (ds : List Char) :
    readQuoted? quote (cs ++ b :: ds) = some (text, n) := by
  fun_induction readQuoted? quote cs generalizing text n with
  | case1 => cases h
  | case2 cs ih =>
    obtain ⟨⟨text, n⟩, hread, h⟩ := Option.map_eq_some_iff.mp h
    cases h
    simp [readQuoted?, ih hread]
  | case3 d cs hd =>
    cases h
    simp [readQuoted?, hd]
  | case4 =>
    cases h
    simp [readQuoted?, hquote.symm]
  | case5 c cs hc ih =>
    obtain ⟨⟨text, n⟩, hread, h⟩ := Option.map_eq_some_iff.mp h
    cases h
    rw [List.cons_append, readQuoted?.eq_def]
    simp only [hc, if_false, ih hread, Option.map_some]

theorem readQuoted?_length {quote : Char} {cs text : List Char} {n : Nat}
    (h : readQuoted? quote cs = some (text, n)) : n ≤ cs.length := by
  fun_induction readQuoted? quote cs generalizing text n with
  | case1 => cases h
  | case2 cs ih | case5 c cs hc ih =>
    obtain ⟨⟨text, n⟩, hread, h⟩ := Option.map_eq_some_iff.mp h
    cases h
    have := ih hread
    simp only [List.length_cons]
    omega
  | case3 | case4 =>
    cases h
    simp

/-- The digits behind the point of a number that starts with the characters. -/
def fractionDigits (cs : List Char) : List Char :=
  match cs.drop (cs.takeWhile Char.isDigit).length with
  | '.' :: rest => rest.takeWhile Char.isDigit
  | _ => []

theorem cutNumber_eq (cs : List Char) : cutNumber cs =
    if (fractionDigits cs).isEmpty then
      match Number.int64? (Number.ofDigits (cs.takeWhile Char.isDigit)) with
      | some n => .ok ⟨.integer n, (cs.takeWhile Char.isDigit).length⟩
      | none => .error (.integerRange (String.ofList (cs.takeWhile Char.isDigit)))
    else .ok ⟨.float (Number.floatOf (Number.ofDigits (cs.takeWhile Char.isDigit ++ fractionDigits cs))
      (-((fractionDigits cs).length : Int))),
      (cs.takeWhile Char.isDigit).length + 1 + (fractionDigits cs).length⟩ := rfl

theorem fractionDigits_append_blank {b : Char} (hb : Text.isBlank b) (cs ds : List Char) :
    fractionDigits (cs ++ b :: ds) = fractionDigits cs := by
  rw [fractionDigits, fractionDigits, takeWhile_append_of_false (Text.isDigit_of_isBlank hb),
    List.drop_append_of_le_length (List.takeWhile_sublist _).length_le]
  cases cs.drop (cs.takeWhile Char.isDigit).length with
  | nil =>
    have hpoint : b ≠ '.' := (ne_of_isBlank hb (by decide)).symm
    simp [hpoint]
  | cons c rest =>
    by_cases hc : c = '.'
    · subst hc
      exact takeWhile_append_of_false (Text.isDigit_of_isBlank hb) rest ds
    · simp [hc]

theorem cutNumber_append_blank {b : Char} (hb : Text.isBlank b) (cs ds : List Char) :
    cutNumber (cs ++ b :: ds) = cutNumber cs := by
  rw [cutNumber_eq, cutNumber_eq, fractionDigits_append_blank hb,
    takeWhile_append_of_false (Text.isDigit_of_isBlank hb)]

-- The digits of a number and its point are characters of it.
theorem length_fractionDigits {cs : List Char} (h : fractionDigits cs ≠ []) :
    (cs.takeWhile Char.isDigit).length + 1 + (fractionDigits cs).length ≤ cs.length := by
  have hlength : cs.length = (cs.takeWhile Char.isDigit).length +
      (cs.drop (cs.takeWhile Char.isDigit).length).length := by
    have := (List.takeWhile_sublist (l := cs) Char.isDigit).length_le
    rw [List.length_drop]
    omega
  unfold fractionDigits at h ⊢
  split at h
  case h_1 rest heq =>
    have := (List.takeWhile_sublist (l := rest) Char.isDigit).length_le
    simp only [heq, List.length_cons] at hlength ⊢
    omega
  case h_2 => exact absurd rfl h

theorem cutNumber_size {c : Char} {cs : List Char} {cut : Cut} (hc : c.isDigit)
    (h : cutNumber (c :: cs) = .ok cut) : 0 < cut.size ∧ cut.size ≤ cs.length + 1 := by
  rw [cutNumber_eq] at h
  split at h
  · split at h
    · cases h
      have := (List.takeWhile_sublist (l := c :: cs) Char.isDigit).length_le
      exact ⟨by simp [hc], this⟩
    · cases h
  case isFalse hfraction =>
    cases h
    have := length_fractionDigits fun hnil => hfraction (List.isEmpty_iff.mpr hnil)
    exact ⟨Nat.lt_of_lt_of_le (Nat.succ_pos _) (Nat.le_add_right _ _), this⟩

theorem cutLonger_append_blank {b c : Char} (hb : Text.isBlank b) {cs : List Char} {cut : Cut}
    (h : cutLonger c cs = .ok cut) (ds : List Char) : cutLonger c (cs ++ b :: ds) = .ok cut := by
  unfold cutLonger at h ⊢
  split at h
  case isTrue hquote =>
    have hc : c ≠ b := ne_of_isBlank hb (by rcases hquote with rfl | rfl <;> decide)
    rw [if_pos hquote]
    split at h
    case h_1 text n hread =>
      rw [readQuoted?_append hc hread]
      exact h
    case h_2 => cases h
  case isFalse hquote =>
    rw [if_neg hquote, takeWhile_append_of_false (continuesWord_of_isBlank hb), ← List.cons_append,
      cutNumber_append_blank hb]
    exact h

theorem cutLonger_size {c : Char} {cs : List Char} {cut : Cut} (h : cutLonger c cs = .ok cut) :
    0 < cut.size ∧ cut.size ≤ cs.length + 1 := by
  unfold cutLonger at h
  split at h
  · split at h
    case h_1 text n hread =>
      cases h
      exact ⟨Nat.succ_pos _, Nat.succ_le_succ (readQuoted?_length hread)⟩
    case h_2 => cases h
  · split at h
    · cases h
      exact ⟨Nat.succ_pos _, Nat.succ_le_succ (List.takeWhile_sublist _).length_le⟩
    · split at h
      case isTrue hdigit => exact cutNumber_size hdigit h
      case isFalse => cases h

/-- A lexeme stays the same in front of white space. -/
theorem cutLexeme_append_blank {b c : Char} (hb : Text.isBlank b) {cs : List Char} {cut : Cut}
    (h : cutLexeme c cs = .ok cut) (ds : List Char) : cutLexeme c (cs ++ b :: ds) = .ok cut := by
  rcases cutLexeme_cases h with hsymbol | hlonger
  · exact hsymbol.blank ds hb
  · rw [hlonger] at h ⊢
    exact cutLonger_append_blank hb h ds

theorem cutLexeme_size {c : Char} {cs : List Char} {cut : Cut} (h : cutLexeme c cs = .ok cut) :
    0 < cut.size ∧ cut.size ≤ cs.length + 1 := by
  rcases cutLexeme_cases h with hsymbol | hlonger
  · exact ⟨hsymbol.size_pos, hsymbol.size_le⟩
  · exact cutLonger_size (hlonger cs ▸ h)

/-! ## 3. Trivia -/

/-- Whether a comment is open behind the character if the character is trivia. -/
def triviaStep? (inComment : Bool) (c : Char) (next? : Option Char) : Option Bool :=
  if inComment then some (c != '\n')
  else if Text.isBlank c then some false
  else if c = '-' ∧ next? = some '-' then some true
  else none

theorem splitTrivia_cons (inComment : Bool) (c : Char) (cs : List Char) :
    splitTrivia inComment (c :: cs) = match triviaStep? inComment c cs.head? with
      | some open? => (c :: (splitTrivia open? cs).1, (splitTrivia open? cs).2)
      | none => ([], c :: cs) := by
  rw [splitTrivia, triviaStep?]
  split
  · rfl
  · split
    · rfl
    · split <;> rfl

-- A minus that starts no comment starts none in front of a line break.
theorem triviaStep?_append_newline (inComment : Bool) (c : Char) (cs ds : List Char) :
    triviaStep? inComment c (cs ++ '\n' :: ds).head? = triviaStep? inComment c cs.head? := by
  cases cs with
  | nil => simp [triviaStep?]
  | cons d cs => rfl

/-- A line break ends a comment, and is white space behind anything else. -/
theorem splitTrivia_append_of_nil {inComment : Bool} {cs : List Char}
    (h : (splitTrivia inComment cs).2 = []) (ds : List Char) :
    splitTrivia inComment (cs ++ '\n' :: ds) =
      (cs ++ '\n' :: (splitTrivia false ds).1, (splitTrivia false ds).2) := by
  induction cs generalizing inComment with
  | nil => cases inComment <;> rfl
  | cons c cs ih =>
    rw [splitTrivia_cons] at h
    rw [List.cons_append, splitTrivia_cons, triviaStep?_append_newline]
    cases hstep : triviaStep? inComment c cs.head? with
    | none => simp [hstep] at h
    | some open? =>
      rw [hstep] at h
      simp only [ih h]
      rfl

-- Trivia in front of a lexeme stay what they are if more follows.
theorem splitTrivia_append_of_cons {inComment : Bool} {cs trivia rest : List Char} {c : Char}
    (h : splitTrivia inComment cs = (trivia, c :: rest)) (ds : List Char) :
    splitTrivia inComment (cs ++ '\n' :: ds) = (trivia, c :: (rest ++ '\n' :: ds)) := by
  induction cs generalizing inComment trivia with
  | nil => cases h
  | cons d cs ih =>
    rw [splitTrivia_cons] at h
    rw [List.cons_append, splitTrivia_cons, triviaStep?_append_newline]
    cases hstep : triviaStep? inComment d cs.head? with
    | none =>
      rw [hstep] at h
      cases h
      rfl
    | some open? =>
      rw [hstep] at h
      obtain ⟨rfl, hrest⟩ := Prod.mk.inj h
      simp only [ih (Prod.ext rfl hrest)]

/-! ## 4. Whole scripts -/

namespace Scan

/-- The same lexemes at other places. -/
def relocate (f : Position → Position) : Scan → Scan
  | stop position => stop (f position)
  | fault error => fault ⟨f error.position, error.fault⟩
  | lexeme head rest => lexeme (head.relocate f) (rest.relocate f)

theorem relocate_prepend (f : Position → Position) (s : Scan) (ts : List Lexeme) :
    (s.prepend ts).relocate f = (s.relocate f).prepend (ts.map (Lexeme.relocate f)) := by
  induction ts with
  | nil => rfl
  | cons l ts ih => exact congrArg (lexeme (l.relocate f)) ih

end Scan

/-- The characters at a place scan as told: trivia and a lexeme in turn, up to the end or a fault. -/
inductive Scanned : Position → List Char → Scan → Prop where
  | stop {p : Position} {cs : List Char} (hsplit : (splitTrivia false cs).2 = []) :
      Scanned p cs (.stop (p.after cs))
  | fault {p : Position} {cs trivia rest : List Char} {c : Char} {fault : LexFault}
      (hsplit : splitTrivia false cs = (trivia, c :: rest)) (hcut : cutLexeme c rest = .error fault) :
      Scanned p cs (.fault ⟨p.after trivia, fault⟩)
  | lexeme {p : Position} {cs trivia spelled rest : List Char} {c : Char} {cut : Cut} {s : Scan}
      (hsplit : splitTrivia false cs = (trivia, c :: (spelled ++ rest)))
      (hcut : cutLexeme c (spelled ++ rest) = .ok cut) (hsize : cut.size = spelled.length + 1)
      (hrest : Scanned ((p.after trivia).after (c :: spelled)) rest s) :
      Scanned p cs (.lexeme ⟨cut.token, p.after trivia⟩ s)

theorem scanned_scanFrom (p : Position) (cs : List Char) : Scanned p cs (scanFrom p cs) := by
  fun_induction scanFrom p cs with
  | case1 p cs split start hrest =>
    have hcs : split.1 = cs := by
      have happend := splitTrivia_append false cs
      rwa [show (splitTrivia false cs).2 = [] from hrest, List.append_nil] at happend
    rw [show start = p.after cs from congrArg p.after hcs]
    exact .stop hrest
  | case2 p cs split start c rest hrest fault hcut => exact .fault (Prod.ext rfl hrest) hcut
  | case3 p cs split start c rest hrest cut hcut size hlt ih =>
    obtain ⟨hpos, hle⟩ := cutLexeme_size hcut
    have happend : rest.take size ++ rest.drop size = rest := List.take_append_drop size rest
    refine .lexeme (Prod.ext rfl (hrest.trans ?_)) (happend.symm ▸ hcut) ?_ ih
    · rw [happend]
    · rw [List.length_take, Nat.min_eq_left (Nat.sub_le_of_le_add hle)]
      exact (Nat.sub_add_cancel hpos).symm

theorem Scanned.unique {p : Position} {cs : List Char} {s s' : Scan} (h : Scanned p cs s)
    (h' : Scanned p cs s') : s = s' := by
  induction h generalizing s' with
  | stop hsplit =>
    cases h' with
    | stop => rfl
    | fault hsplit' _ | lexeme hsplit' _ _ _ =>
      rw [hsplit'] at hsplit
      cases hsplit
  | fault hsplit hcut =>
    cases h' with
    | stop hsplit' =>
      rw [hsplit] at hsplit'
      cases hsplit'
    | fault hsplit' hcut' =>
      cases hsplit.symm.trans hsplit'
      cases hcut.symm.trans hcut'
      rfl
    | lexeme hsplit' hcut' _ _ =>
      cases hsplit.symm.trans hsplit'
      cases hcut.symm.trans hcut'
  | lexeme hsplit hcut hsize _ ih =>
    cases h' with
    | stop hsplit' =>
      rw [hsplit] at hsplit'
      cases hsplit'
    | fault hsplit' hcut' =>
      cases hsplit.symm.trans hsplit'
      cases hcut.symm.trans hcut'
    | lexeme hsplit' hcut' hsize' hrest' =>
      obtain ⟨rfl, hcons⟩ := Prod.mk.inj (hsplit.symm.trans hsplit')
      obtain ⟨rfl, happend⟩ := List.cons.inj hcons
      rw [happend] at hcut
      cases hcut.symm.trans hcut'
      obtain ⟨rfl, rfl⟩ := List.append_inj happend (Nat.succ.inj (hsize.symm.trans hsize'))
      rw [ih hrest']

theorem Scanned.eq {p : Position} {cs : List Char} {s : Scan} (h : Scanned p cs s) :
    s = scanFrom p cs :=
  h.unique (scanned_scanFrom p cs)

-- A text that is trivia in front of another one only moves it.
theorem Scanned.of_trivia {p : Position} {us ds : List Char} {s : Scan}
    (hus : splitTrivia false (us ++ ds) = (us ++ (splitTrivia false ds).1, (splitTrivia false ds).2))
    (h : Scanned (p.after us) ds s) : Scanned p (us ++ ds) s := by
  cases h with
  | stop hsplit =>
    rw [← Position.after_append]
    exact .stop (by rw [hus]; exact hsplit)
  | fault hsplit hcut =>
    rw [← Position.after_append]
    exact .fault (by rw [hus, hsplit]) hcut
  | lexeme hsplit hcut hsize hrest =>
    rw [← Position.after_append p us] at hrest ⊢
    exact .lexeme (by rw [hus, hsplit]) hcut hsize hrest

/-- What stands in front of a line break is scanned as if nothing followed, and what stands behind it as
if nothing came before. -/
theorem Scanned.append_newline {p q : Position} {cs ds : List Char} {s s' : Scan}
    {ts : List Lexeme} (h : Scanned p cs s) (hs : s = (Scan.stop q).prepend ts)
    (h' : Scanned (p.after (cs ++ ['\n'])) ds s') : Scanned p (cs ++ '\n' :: ds) (s'.prepend ts) := by
  induction h generalizing ts with
  | @stop p cs hsplit =>
    cases ts with
    | cons l ts => cases hs
    | nil =>
      have hnewline := splitTrivia_append_of_nil hsplit ds
      rw [List.append_cons] at hnewline ⊢
      refine h'.of_trivia (hnewline.trans ?_)
      rw [List.append_assoc]
      rfl
  | fault hsplit hcut => cases ts <;> cases hs
  | @lexeme p cs trivia spelled rest c cut s hsplit hcut hsize hrest ih =>
    cases ts with
    | nil => cases hs
    | cons l ts =>
      obtain ⟨rfl, hts⟩ := Scan.lexeme.inj hs
      have hcs : cs = trivia ++ c :: (spelled ++ rest) := by
        rw [← splitTrivia_append false cs, hsplit]
      have hsplit := splitTrivia_append_of_cons hsplit ds
      have hcut := cutLexeme_append_blank (b := '\n') (by decide) hcut ds
      rw [List.append_assoc] at hsplit hcut
      refine .lexeme hsplit hcut hsize (ih hts ?_)
      rw [← Position.after_append, ← Position.after_append]
      simpa [hcs] using h'

namespace Position

theorem next_lower (lines : Nat) (p : Position) (c : Char) :
    (p.lower lines).next c = (p.next c).lower lines := by
  unfold next lower
  split
  · simp only [Position.mk.injEq, and_true]
    omega
  · rfl

theorem after_lower (lines : Nat) (p : Position) (cs : List Char) :
    (p.lower lines).after cs = (p.after cs).lower lines := by
  induction cs generalizing p with
  | nil => rfl
  | cons c cs ih =>
    show ((p.lower lines).next c).after cs = _
    rw [next_lower, ih]
    rfl

theorem line_after (p : Position) (cs : List Char) : (p.after cs).line = p.line + cs.count '\n' := by
  induction cs generalizing p with
  | nil => rfl
  | cons c cs ih =>
    show ((p.next c).after cs).line = _
    rw [ih, List.count_cons, next]
    by_cases hc : c = '\n'
    · simp [hc]
      omega
    · simp [hc]

-- Behind a line break a text starts as a script does, further down.
theorem after_newline (cs : List Char) :
    start.after (cs ++ ['\n']) = start.lower (cs.count '\n' + 1) := by
  have hline := line_after start cs
  rw [after_append]
  show (start.after cs).next '\n' = _
  rw [next, if_pos rfl, hline]
  rfl

end Position

/-- Text further down has its lexemes further down. -/
theorem Scanned.lower {p : Position} {cs : List Char} {s : Scan} (h : Scanned p cs s) (lines : Nat) :
    Scanned (p.lower lines) cs (s.relocate (Position.lower lines)) := by
  induction h with
  | @stop p cs hsplit =>
    have h := Scanned.stop (p := p.lower lines) hsplit
    rwa [Position.after_lower] at h
  | @fault p cs trivia rest c fault hsplit hcut =>
    have h := Scanned.fault (p := p.lower lines) hsplit hcut
    rwa [Position.after_lower] at h
  | @lexeme p cs trivia spelled rest c cut s hsplit hcut hsize _ ih =>
    have h := Scanned.lexeme (p := p.lower lines) hsplit hcut hsize
      (by rw [Position.after_lower, Position.after_lower]; exact ih)
    rwa [Position.after_lower] at h

/-! ## 5. Tokens of scripts -/

/-- The token is one that a text can have. -/
inductive Token.IsCut : Token → Prop where
  | symbol {t : Token} (h : t.isSymbol) : IsCut t
  | text (text : String) : IsCut (.string text)
  | word (word : String) : IsCut (ofWord word)
  | integer {digits : List Char} {n : Int64}
      (h : Number.int64? (Number.ofDigits digits) = some n) : IsCut (.integer n)
  | float (digits : List Char) (places : Nat) :
      IsCut (.float (Number.floatOf (Number.ofDigits digits) (-(places : Int))))

theorem cutLonger_isCut {c : Char} {cs : List Char} {cut : Cut} (h : cutLonger c cs = .ok cut) :
    cut.token.IsCut := by
  unfold cutLonger at h
  split at h
  · split at h
    · cases h
      exact .text _
    · cases h
  · split at h
    · cases h
      exact .word _
    · split at h
      · rw [cutNumber_eq] at h
        split at h
        · split at h
          case h_1 n hn =>
            cases h
            exact .integer hn
          case h_2 => cases h
        · cases h
          exact .float _ _
      · cases h

theorem cutLexeme_isCut {c : Char} {cs : List Char} {cut : Cut} (h : cutLexeme c cs = .ok cut) :
    cut.token.IsCut := by
  rcases cutLexeme_cases h with hsymbol | hlonger
  · exact .symbol hsymbol.token
  · exact cutLonger_isCut (hlonger cs ▸ h)

theorem Token.ofWord_cases (word : String) :
    (∃ t, keyword? word.toLower = some t ∧ ofWord word = t) ∨
      (keyword? word.toLower = none ∧ ofWord word = .identifier word) := by
  unfold ofWord
  cases h : keyword? word.toLower with
  | none => exact .inr ⟨rfl, rfl⟩
  | some t => exact .inl ⟨t, rfl, rfl⟩

theorem Token.keyword?_ne_eof (word : String) : keyword? word ≠ some .eof := by
  unfold keyword?
  split <;> nofun

theorem Token.IsCut.ne_eof {t : Token} (h : t.IsCut) : t ≠ .eof := by
  cases h with
  | symbol h =>
    rintro rfl
    cases h
  | word word =>
    intro heof
    rcases ofWord_cases word with ⟨t, hkeyword, ht⟩ | ⟨_, hidentifier⟩
    · exact keyword?_ne_eof _ (hkeyword.trans (congrArg some (ht.symm.trans heof)))
    · cases hidentifier.symm.trans heof
  | text _ | integer _ | float _ _ => nofun

theorem Scanned.isCut {p : Position} {cs : List Char} {s rest : Scan} {ts : List Lexeme}
    (h : Scanned p cs s) (hs : s = rest.prepend ts) : ∀ l ∈ ts, l.token.IsCut := by
  induction h generalizing ts with
  | stop _ | fault _ _ =>
    cases ts with
    | nil => nofun
    | cons l ts => cases hs
  | lexeme _ hcut _ _ ih =>
    cases ts with
    | nil => nofun
    | cons l ts =>
      obtain ⟨rfl, hts⟩ := Scan.lexeme.inj hs
      exact List.forall_mem_cons.mpr ⟨cutLexeme_isCut hcut, ih hts⟩

/-! ## 6. Sources -/

/-- The source has the lexemes, and nothing else up to its end. -/
def HasLexemes (source : String) (ts : List Lexeme) : Prop :=
  ∃ stop, scan source = (Scan.stop stop).prepend ts

theorem HasLexemes.isCut {source : String} {ts : List Lexeme} (h : HasLexemes source ts) :
    ∀ l ∈ ts, l.token.IsCut := by
  obtain ⟨stop, hscan⟩ := h
  exact (scanned_scanFrom Position.start source.toList).isCut hscan

theorem Scan.toList_ne_nil (s : Scan) : s.toList ≠ .ok [] := by
  cases s with
  | stop _ | fault _ => nofun
  | lexeme l rest =>
    intro h
    obtain ⟨_, _, h⟩ := Except.map_eq_ok.mp h
    cases h

theorem Scan.toList_eq_ok {s : Scan} {ts : List Lexeme} {stop : Position} :
    s.toList = .ok (ts ++ [⟨.eof, stop⟩]) ↔ s = (Scan.stop stop).prepend ts := by
  induction ts generalizing s with
  | nil =>
    refine ⟨fun h => ?_, fun h => h ▸ rfl⟩
    cases s with
    | stop _ =>
      cases h
      rfl
    | fault _ => cases h
    | lexeme l rest =>
      obtain ⟨_, hrest, h⟩ := Except.map_eq_ok.mp h
      cases h
      exact absurd hrest rest.toList_ne_nil
  | cons t ts ih =>
    constructor
    · intro h
      cases s with
      | stop _ =>
        have hnil : ([] : List Lexeme) = ts ++ [⟨.eof, stop⟩] := (List.cons.inj (Except.ok.inj h)).2
        exact absurd hnil.symm (List.append_ne_nil_of_right_ne_nil ts nofun)
      | fault _ => cases h
      | lexeme l rest =>
        obtain ⟨_, hrest, h⟩ := Except.map_eq_ok.mp h
        cases h
        exact congrArg (Scan.lexeme t) (ih.mp hrest)
    · rintro rfl
      exact Except.map_eq_ok.mpr ⟨_, ih.mpr rfl, rfl⟩

/-- The source is cut into the lexemes, with the end of the source behind them. -/
theorem hasLexemes_iff_tokenize {source : String} {ts : List Lexeme} : HasLexemes source ts ↔
    ∃ stop, tokenize source = .ok (ts ++ [⟨.eof, stop⟩]) :=
  exists_congr fun _ => Scan.toList_eq_ok.symm

/-- How many lines further down a text is behind a source and a line break. -/
def linesOf (source : String) : Nat := source.toList.count '\n' + 1

theorem linesOf_append (first second : String) :
    linesOf (first ++ "\n" ++ second) = linesOf first + linesOf second := by
  simp only [linesOf, String.toList_append, List.count_append]
  show _ + 1 + _ + 1 = _
  omega

/-- The lexemes of two sources with a line break between them. -/
theorem HasLexemes.append {first second : String} {ts us : List Lexeme} (h : HasLexemes first ts)
    (h' : HasLexemes second us) : HasLexemes (first ++ "\n" ++ second)
      (ts ++ us.map (Lexeme.relocate (Position.lower (linesOf first)))) := by
  obtain ⟨stop, hscan⟩ := h
  obtain ⟨stop', hscan'⟩ := h'
  have hsecond := (scanned_scanFrom Position.start second.toList).lower (linesOf first)
  rw [linesOf, ← Position.after_newline] at hsecond
  have hwhole := (scanned_scanFrom Position.start first.toList).append_newline hscan hsecond
  refine ⟨stop'.lower (linesOf first), ?_⟩
  have hchars : (first ++ "\n" ++ second).toList = first.toList ++ '\n' :: second.toList := by
    simp
  rw [scan, hchars, ← hwhole.eq]
  show ((scan second).relocate _).prepend ts = _
  rw [hscan', Scan.relocate_prepend, Scan.prepend_append]
  rfl

theorem hasLexemes_semicolon : HasLexemes ";" [⟨.semicolon, Position.start⟩] := by
  have hsplit : splitTrivia false [';'] = ([], ';' :: ([] ++ [])) := rfl
  have hcut : cutLexeme ';' ([] ++ []) = .ok ⟨.semicolon, 1⟩ := rfl
  have h : Scanned Position.start [';'] _ := .lexeme hsplit hcut rfl (.stop rfl)
  exact ⟨_, h.eq.symm⟩

end Quarry.Script
