import Mathlib.Data.List.Nodup
import Mathlib.Order.Basic
import Quarry.Proofs.Script.Rendering

/-!
# Scripts in pieces

Scanning loses nothing. A script is trivia and texts of tokens in turn, and each of these texts has its
token when it stands alone. The place of a token says how many line breaks come before it and how far it is
from the last one. What cannot be scanned is the end of a script, at a character that explains why.
-/

namespace Quarry.Script

/-! ## 1. Definitions -/

/-- The place behind some characters: their line breaks are counted, and the characters behind the last. -/
def Position.behind (cs : List Char) : Position :=
  ⟨1 + cs.count '\n', 1 + (cs.reverse.takeWhile (· != '\n')).length⟩

/-- A place comes before another in the order of reading. -/
def Position.Before (p q : Position) : Prop := p.line < q.line ∨ p.line = q.line ∧ p.column < q.column

/-- A token with the text that spells it and the trivia in front. -/
structure Piece where
  trivia : List Char
  text : List Char
  token : Token

namespace Piece

def chars (p : Piece) : List Char := p.trivia ++ p.text

/-- The text of a piece spells its token: alone it is a script of that token. -/
structure Spells (p : Piece) : Prop where
  trivia : Trivia p.trivia
  text : p.text ≠ []
  alone : tokenize (String.ofList p.text) =
    .ok [⟨p.token, Position.start⟩, ⟨.eof, Position.behind p.text⟩]

/-- The characters of pieces, one piece after the other. -/
def charsOf (pieces : List Piece) : List Char := pieces.flatMap chars

/-- The lexemes of pieces that stand behind some characters. -/
def lexemesOf : List Char → List Piece → List Lexeme
  | _, [] => []
  | before, p :: pieces =>
    ⟨p.token, Position.behind (before ++ p.trivia)⟩ :: lexemesOf (before ++ p.chars) pieces

end Piece

/-- The end of a script as its last lexeme. -/
def endOf (source : List Char) : Lexeme := ⟨.eof, Position.behind source⟩

/-- Why characters start with no lexeme. -/
inductive LexFault.Explains : LexFault → List Char → Prop where
  /-- Up to the end each quote of the kind is written twice, so that none closes the text. -/
  | unterminated {quote : Char} (hquote : quote = '\'' ∨ quote = '"') (text : List Char) :
      Explains .unterminated (quote :: doubled quote text)
  | loneBang {cs : List Char} (heq : cs.head? ≠ some '=') : Explains .loneBang ('!' :: cs)
  | unexpected {c : Char} {cs : List Char} (hsymbol : c ∉ symbolStarts)
      (hquote : ¬(c = '\'' ∨ c = '"')) (hword : startsWord c = false) (hdigit : c.isDigit = false)
      (hblank : Text.isBlank c = false) : Explains (.unexpected c) (c :: cs)
  /-- All digits are read, no fraction follows, and the number has no room in 64 bits. -/
  | integerRange {digits cs : List Char} (hne : digits ≠ []) (hdigits : ∀ c ∈ digits, c.isDigit)
      (hend : ∀ c ∈ cs.head?, c.isDigit = false)
      (hfraction : ∀ c ds, cs = '.' :: c :: ds → c.isDigit = false)
      (hrange : 9223372036854775807 < Nat.ofDigitChars 10 digits 0) :
      Explains (.integerRange (String.ofList digits)) (digits ++ cs)

/-- How a script is scanned. -/
inductive Cuts (source : String) : Except LexError (List Lexeme) → Prop where
  /-- Pieces make up the script. What is left behind the last one is trivia, where the end of the script
  ends a comment as a line break does. -/
  | ok {pieces : List Piece} {last : List Char} (hpieces : ∀ p ∈ pieces, p.Spells)
      (hlast : Trivia (last ++ ['\n'])) (hsource : source.toList = Piece.charsOf pieces ++ last)
      (hordered : (Piece.lexemesOf [] pieces ++ [endOf source.toList]).Pairwise
        fun l l' => l.position.Before l'.position) :
      Cuts source (.ok (Piece.lexemesOf [] pieces ++ [endOf source.toList]))
  /-- Behind pieces and trivia stands a character that starts no lexeme. -/
  | error {pieces : List Piece} {trivia rest : List Char} {fault : LexFault}
      (hpieces : ∀ p ∈ pieces, p.Spells) (htrivia : Trivia trivia)
      (hsource : source.toList = Piece.charsOf pieces ++ trivia ++ rest)
      (hfault : fault.Explains rest) :
      Cuts source (.error ⟨Position.behind (Piece.charsOf pieces ++ trivia), fault⟩)

/-! ## 2. Places -/

namespace Position

theorem behind_concat (cs : List Char) (c : Char) : behind (cs ++ [c]) = (behind cs).next c := by
  rw [behind, behind, next]
  by_cases hc : c = '\n'
  · simp [hc]
    omega
  · simp [hc]
    omega

theorem after_behind (before cs : List Char) :
    (behind before).after cs = behind (before ++ cs) := by
  induction cs generalizing before with
  | nil => rw [List.append_nil]; rfl
  | cons c cs ih =>
    show ((behind before).next c).after cs = _
    rw [← behind_concat, ih, List.append_assoc]
    rfl

/-- The place that is reached one character after the other is the one that is counted. -/
theorem after_start (cs : List Char) : start.after cs = behind cs := after_behind [] cs

theorem Before.trans {p q r : Position} (h : p.Before q) (h' : q.Before r) : p.Before r := by
  unfold Before at *
  omega

theorem before_next (p : Position) (c : Char) : p.Before (p.next c) := by
  unfold Before next
  split
  · exact .inl (Nat.lt_succ_self _)
  · exact .inr ⟨rfl, Nat.lt_succ_self _⟩

theorem before_after {cs : List Char} (hne : cs ≠ []) (p : Position) : p.Before (p.after cs) := by
  induction cs generalizing p with
  | nil => exact absurd rfl hne
  | cons c cs ih =>
    have hnext := before_next p c
    cases cs with
    | nil => exact hnext
    | cons d ds => exact hnext.trans (ih nofun (p.next c))

theorem behind_before {cs : List Char} (hne : cs ≠ []) (before : List Char) :
    (behind before).Before (behind (before ++ cs)) :=
  after_behind before cs ▸ before_after hne (behind before)

end Position

namespace Piece

-- The lexemes of pieces and the end of the script stand behind what comes before them.
theorem position_of_mem {before last : List Char} {pieces : List Piece} {l : Lexeme}
    (h : l ∈ lexemesOf before pieces ++ [endOf (before ++ charsOf pieces ++ last)]) :
    ∃ cs, l.position = Position.behind (before ++ cs) := by
  induction pieces generalizing before with
  | nil =>
    rw [List.mem_singleton.mp h]
    exact ⟨charsOf [] ++ last, congrArg Position.behind (List.append_assoc _ _ _)⟩
  | cons p pieces ih =>
    rcases List.mem_cons.mp h with rfl | h
    · exact ⟨p.trivia, rfl⟩
    · have hchars : before ++ charsOf (p :: pieces) = before ++ p.chars ++ charsOf pieces := by
        simp [charsOf]
      rw [hchars] at h
      have ⟨cs, hcs⟩ := ih h
      exact ⟨p.chars ++ cs, by rw [hcs, List.append_assoc]⟩

/-- Places come in the order of the pieces, and the end of the script comes last. -/
theorem pairwise_before {pieces : List Piece} (hpieces : ∀ p ∈ pieces, p.text ≠ [])
    (before last : List Char) :
    (lexemesOf before pieces ++ [endOf (before ++ charsOf pieces ++ last)]).Pairwise
      fun l l' => l.position.Before l'.position := by
  induction pieces generalizing before with
  | nil => exact List.pairwise_singleton _ _
  | cons p pieces ih =>
    rw [List.forall_mem_cons] at hpieces
    have hchars : before ++ charsOf (p :: pieces) = before ++ p.chars ++ charsOf pieces := by
      simp [charsOf]
    rw [hchars]
    refine List.pairwise_cons.mpr ⟨fun l hl => ?_, ih hpieces.2 (before ++ p.chars)⟩
    have ⟨cs, hcs⟩ := position_of_mem hl
    have hsplit : before ++ p.chars ++ cs = before ++ p.trivia ++ (p.text ++ cs) := by
      simp [chars]
    rw [hcs, hsplit]
    exact Position.behind_before (List.append_ne_nil_of_left_ne_nil hpieces.1 cs) _

end Piece

/-! ## 3. Trivia -/

/-- The rest of a comment up to its line break, and trivia behind it. -/
def ClosesComment (cs : List Char) : Prop :=
  ∃ body rest, '\n' ∉ body ∧ cs = body ++ '\n' :: rest ∧ Trivia rest

/-- What is skipped in front of a lexeme is trivia, or closes a comment first if one is open. -/
theorem skipped_of_splitTrivia {inComment : Bool} {cs skipped rest : List Char} {c : Char}
    (h : splitTrivia inComment cs = (skipped, c :: rest)) :
    if inComment then ClosesComment skipped else Trivia skipped := by
  induction cs generalizing inComment skipped with
  | nil => cases h
  | cons d cs ih =>
    rw [splitTrivia_cons] at h
    cases hstep : triviaStep? inComment d cs.head? with
    | none =>
      rw [hstep] at h
      cases h
      cases inComment with
      | true => cases hstep
      | false => exact .nil
    | some open? =>
      cases hsplit : splitTrivia open? cs with
      | mk us ds =>
      have hchars := splitTrivia_append open? cs
      simp only [hstep, hsplit] at h hchars
      cases h
      have hbehind := ih hsplit
      cases inComment with
      | true =>
        -- In a comment a line break closes it, and any other character belongs to it.
        by_cases hd : d = '\n'
        · subst hd
          cases hstep
          exact ⟨[], us, List.not_mem_nil, rfl, hbehind⟩
        · have hopen : open? = true := by
            rw [← Option.some.inj hstep, bne_iff_ne.mpr hd]
          subst hopen
          have ⟨body, rest', hbody, heq, hrest'⟩ := hbehind
          exact ⟨d :: body, rest', by simp [hbody, Ne.symm hd], by rw [heq]; rfl, hrest'⟩
      | false =>
        simp only [triviaStep?, Bool.false_eq_true, if_false] at hstep
        split at hstep
        case isTrue hblank =>
          cases hstep
          exact .blank hblank hbehind
        case isFalse =>
          split at hstep
          case isTrue hminus =>
            cases hstep
            have ⟨body, rest', hbody, heq, hrest'⟩ := hbehind
            -- The comment begins with the second sign.
            rw [← hchars, heq] at hminus
            rw [hminus.1, heq]
            cases body with
            | nil =>
              have hsame : '\n' = '-' := Option.some.inj hminus.2
              exact absurd hsame (by decide)
            | cons e body =>
              cases hminus.2
              exact .comment (fun h => hbody (List.mem_cons_of_mem _ h)) hrest'
          case isFalse => cases hstep

theorem trivia_of_splitTrivia {cs trivia rest : List Char} {c : Char}
    (h : splitTrivia false cs = (trivia, c :: rest)) : Trivia trivia := skipped_of_splitTrivia h

/-- Characters without a lexeme are trivia, if a line break ended them. -/
theorem trivia_of_splitTrivia_nil {cs : List Char} (h : (splitTrivia false cs).2 = []) :
    Trivia (cs ++ ['\n']) :=
  trivia_of_splitTrivia (splitTrivia_append_of_nil h [';'])

/-! ## 4. Texts of tokens -/

-- A text in quotes stays the same without what follows it.
theorem readQuoted?_take {quote : Char} {cs text : List Char} {n : Nat}
    (h : readQuoted? quote cs = some (text, n)) : readQuoted? quote (cs.take n) = some (text, n) := by
  fun_induction readQuoted? quote cs generalizing text n with
  | case1 => cases h
  | case2 cs ih =>
    rcases Option.map_eq_some_iff.mp h with ⟨⟨text, n⟩, hread, h⟩
    cases h
    simp [readQuoted?, ih hread]
  | case3 d cs hd =>
    cases h
    simp [readQuoted?]
  | case4 =>
    cases h
    simp [readQuoted?]
  | case5 c cs hc ih =>
    rcases Option.map_eq_some_iff.mp h with ⟨⟨text, n⟩, hread, h⟩
    cases h
    rw [List.take_succ_cons, readQuoted?.eq_def]
    simp only [hc, if_false, ih hread, Option.map_some]

-- If the longest run of a class in a text is as long as a first part, it is that part.
theorem takeWhile_eq_of_length {p : Char → Bool} {part rest : List Char}
    (h : ((part ++ rest).takeWhile p).length = part.length) : (part ++ rest).takeWhile p = part := by
  have hrun := List.prefix_iff_eq_take.mp (List.takeWhile_prefix p (l := part ++ rest))
  rw [h, List.take_left] at hrun
  exact hrun

theorem mem_takeWhile {p : Char → Bool} {cs : List Char} : ∀ c ∈ cs.takeWhile p, p c :=
  fun _ hc => List.mem_takeWhile_imp hc

-- A number with a fraction has digits, a point and digits.
theorem exists_of_fractionDigits {cs : List Char} (h : fractionDigits cs ≠ []) : ∃ rest,
    cs = cs.takeWhile Char.isDigit ++ '.' :: fractionDigits cs ++ rest ∧
      ∀ c ∈ cs.takeWhile Char.isDigit ++ fractionDigits cs, c.isDigit := by
  have hsplit := List.take_append_drop (cs.takeWhile Char.isDigit).length cs
  rw [← List.prefix_iff_eq_take.mp (List.takeWhile_prefix Char.isDigit)] at hsplit
  unfold fractionDigits at h ⊢
  split at h
  case h_1 ds hdrop =>
    rw [hdrop] at hsplit
    refine ⟨ds.dropWhile Char.isDigit, ?_, fun c hc => ?_⟩
    · rw [List.append_assoc, List.cons_append, List.takeWhile_append_dropWhile, hsplit]
    · rcases List.mem_append.mp hc with hc | hc
      · exact mem_takeWhile c hc
      · exact mem_takeWhile c hc
  case h_2 => exact absurd rfl h

theorem isLexeme_of_cutNumber_append {c : Char} {spelled rest : List Char} {cut : Cut}
    (hc : c.isDigit) (h : cutNumber (c :: spelled ++ rest) = .ok cut)
    (hsize : cut.size = (c :: spelled).length) : cut.token.IsLexeme (c :: spelled) := by
  rw [cutNumber_eq] at h
  split at h
  case isTrue =>
    split at h
    case h_2 => cases h
    case h_1 n hn =>
      cases h
      have hwhole := takeWhile_eq_of_length hsize
      have hdigits := @mem_takeWhile Char.isDigit (c :: spelled ++ rest)
      rw [hwhole] at hdigits hn
      exact isLexeme_integer nofun hdigits hn
  case isFalse hempty =>
    cases h
    have hfraction : fractionDigits (c :: spelled ++ rest) ≠ [] := fun h => hempty (by rw [h]; rfl)
    have ⟨tail, hsplit, hdigits⟩ := exists_of_fractionDigits hfraction
    have hlength : (c :: spelled).length = ((c :: spelled ++ rest).takeWhile Char.isDigit ++
        '.' :: fractionDigits (c :: spelled ++ rest)).length := by
      rw [List.length_append, List.length_cons (a := '.'), ← hsize, ← Nat.add_assoc, Nat.add_right_comm]
    have hspelled := (List.append_inj hsplit hlength).1
    have hcut := cutNumber_decimal hdigits hfraction
    rw [← hspelled] at hcut
    exact isLexeme_of_cutNumber (fun d hd => Option.some.inj hd ▸ hc) nofun hcut

theorem isLexeme_of_symbolStarts {c : Char} {spelled rest : List Char} {cut : Cut}
    (hc : c ∈ symbolStarts) (h : cutLexeme c (spelled ++ rest) = .ok cut)
    (hsize : cut.size = spelled.length + 1) : cut.token.IsLexeme (c :: spelled) := by
  generalize hcs : spelled ++ rest = cs at h
  unfold cutLexeme at h
  split at h
  case h_19 => simp_all [symbolStarts]
  all_goals cases h
  -- A symbol of one character has none behind the first, one of two has the second that it was cut for.
  all_goals
    cases spelled with
    | nil => first | exact ⟨_, _, rfl, rfl⟩ | cases hsize
    | cons d ds =>
      cases ds with
      | nil => first | cases hsize; done | (cases hcs; exact ⟨_, _, rfl, rfl⟩)
      | cons e ds => cases hsize

/-- A lexeme is cut the same if nothing follows it. -/
theorem isLexeme_of_cutLexeme {c : Char} {spelled rest : List Char} {cut : Cut}
    (h : cutLexeme c (spelled ++ rest) = .ok cut) (hsize : cut.size = spelled.length + 1) :
    cut.token.IsLexeme (c :: spelled) := by
  by_cases hc : c ∈ symbolStarts
  · exact isLexeme_of_symbolStarts hc h hsize
  · rw [cutLexeme_eq_cutLonger hc, cutLonger] at h
    split at h
    case isTrue hquote =>
      split at h
      case h_1 text n hread =>
        cases h
        have hn : n = spelled.length := Nat.succ.inj hsize
        have halone := readQuoted?_take hread
        rw [hn, List.take_left] at halone
        refine ⟨c, spelled, rfl, ?_⟩
        rw [cutLexeme_eq_cutLonger hc, cutLonger, if_pos hquote, halone]
      case h_2 => cases h
    case isFalse =>
      split at h
      case isTrue hword =>
        cases h
        have hrun := takeWhile_eq_of_length (Nat.succ.inj hsize)
        have hwords := @mem_takeWhile continuesWord (spelled ++ rest)
        rw [hrun] at hwords ⊢
        exact ⟨c, spelled, rfl, cutLexeme_word hword hwords⟩
      case isFalse =>
        split at h
        case isTrue hdigit => exact isLexeme_of_cutNumber_append hdigit h hsize
        case isFalse => cases h

/-- The text of a lexeme is a script of its token. -/
theorem Token.IsLexeme.tokenize_eq {t : Token} {text : List Char} (h : t.IsLexeme text) :
    tokenize (String.ofList text) =
      .ok [⟨t, Position.start⟩, ⟨.eof, Position.behind text⟩] := by
  have ⟨c, cs, htext, hcut⟩ := h
  have hstep : triviaStep? false c cs.head? = none := by
    have hbreak := splitTrivia_lexeme hcut (b := '\n') (by decide) []
    rw [splitTrivia_cons, triviaStep?_append_newline] at hbreak
    cases hstep : triviaStep? false c cs.head? with
    | none => rfl
    | some open? =>
      rw [hstep] at hbreak
      cases hbreak
  have hsplit : splitTrivia false text = ([], c :: (cs ++ [])) := by
    rw [htext, splitTrivia_cons, hstep, List.append_nil]
  have hscanned : Scanned Position.start text
      (.lexeme ⟨t, Position.start⟩ (.stop (Position.start.after text))) := by
    rw [htext] at hsplit ⊢
    exact .lexeme hsplit (by rw [List.append_nil]; exact hcut) rfl (.stop rfl)
  rw [tokenize, scan, String.toList_ofList, ← hscanned.eq, Position.after_start]
  rfl

/-! ## 5. Faults -/

/-- A text in quotes is not closed exactly if all its quotes are written twice. -/
theorem readQuoted?_eq_none {quote : Char} {cs : List Char} (h : readQuoted? quote cs = none) :
    ∃ text, cs = doubled quote text := by
  fun_induction readQuoted? quote cs with
  | case1 => exact ⟨[], rfl⟩
  | case2 cs ih =>
    rcases ih (Option.map_eq_none_iff.mp h) with ⟨text, htext⟩
    exact ⟨quote :: text, by simp [doubled, htext]⟩
  | case3 | case4 => cases h
  | case5 c cs hc ih =>
    rcases ih (Option.map_eq_none_iff.mp h) with ⟨text, htext⟩
    exact ⟨c :: text, by simp [doubled, hc, htext]⟩

theorem explains_of_cutNumber {c : Char} {cs : List Char} {fault : LexFault} (hc : c.isDigit)
    (h : cutNumber (c :: cs) = .error fault) : fault.Explains (c :: cs) := by
  have hsplit := List.takeWhile_append_dropWhile (p := Char.isDigit) (l := c :: cs)
  have hdrop := @List.drop_left _ ((c :: cs).takeWhile Char.isDigit) ((c :: cs).dropWhile Char.isDigit)
  rw [hsplit] at hdrop
  rw [cutNumber_eq] at h
  split at h
  case isFalse => cases h
  case isTrue hempty =>
    split at h
    case h_1 => cases h
    case h_2 hnone =>
      cases h
      rw [Number.int64?_eq_none] at hnone
      unfold Number.Fits64 at hnone
      have hdigits : (c :: cs).takeWhile Char.isDigit ≠ [] := by simp [hc]
      have hend : ∀ d ∈ ((c :: cs).dropWhile Char.isDigit).head?, d.isDigit = false := by
        intro d hd
        have hnot := List.head?_dropWhile_not Char.isDigit (c :: cs)
        rw [hd] at hnot
        simpa using hnot
      have hfraction : ∀ d ds, (c :: cs).dropWhile Char.isDigit = '.' :: d :: ds →
          d.isDigit = false := by
        intro d ds hpoint
        rw [fractionDigits, hdrop, hpoint] at hempty
        simpa using hempty
      have hrange : 9223372036854775807 < Number.ofDigits ((c :: cs).takeWhile Char.isDigit) := by
        omega
      have hexplains := LexFault.Explains.integerRange hdigits mem_takeWhile hend hfraction hrange
      rw [hsplit] at hexplains
      exact hexplains

theorem explains_of_cutLexeme {c : Char} {cs : List Char} {fault : LexFault}
    (hblank : Text.isBlank c = false) (h : cutLexeme c cs = .error fault) :
    fault.Explains (c :: cs) := by
  by_cases hc : c ∈ symbolStarts
  · unfold cutLexeme at h
    split at h
    case h_13 hbang =>
      cases h
      refine .loneBang fun heq => ?_
      rcases List.head?_eq_some_iff.mp heq with ⟨tail, htail⟩
      exact hbang tail htail
    case h_19 => simp_all [symbolStarts]
    all_goals cases h
  · rw [cutLexeme_eq_cutLonger hc, cutLonger] at h
    split at h
    case isTrue hquote =>
      split at h
      case h_1 => cases h
      case h_2 hnone =>
        cases h
        rcases readQuoted?_eq_none hnone with ⟨text, htext⟩
        rw [htext]
        exact .unterminated hquote text
    case isFalse hquote =>
      split at h
      case isTrue => cases h
      case isFalse hword =>
        split at h
        case isTrue hdigit => exact explains_of_cutNumber hdigit h
        case isFalse hdigit =>
          cases h
          exact .unexpected hc hquote (Bool.eq_false_iff.mpr hword) (Bool.eq_false_iff.mpr hdigit) hblank

/-! ## 6. Scripts -/

/-- How the scan of some characters ends that stand at a place and start no further lexeme. -/
inductive Ends (p : Position) : List Char → Scan → Prop where
  | stop {last : List Char} (hlast : Trivia (last ++ ['\n'])) : Ends p last (.stop (p.after last))
  | fault {trivia rest : List Char} {fault : LexFault} (htrivia : Trivia trivia)
      (hfault : fault.Explains rest) : Ends p (trivia ++ rest) (.fault ⟨p.after trivia, fault⟩)

-- The first character behind trivia is none of them.
theorem not_isBlank_of_splitTrivia {inComment : Bool} {cs skipped rest : List Char} {c : Char}
    (h : splitTrivia inComment cs = (skipped, c :: rest)) : Text.isBlank c = false := by
  induction cs generalizing inComment skipped with
  | nil => cases h
  | cons d cs ih =>
    rw [splitTrivia_cons] at h
    cases hstep : triviaStep? inComment d cs.head? with
    | none =>
      simp only [hstep] at h
      cases h
      by_contra hblank
      rw [Bool.not_eq_false] at hblank
      cases inComment <;> simp [triviaStep?, hblank] at hstep
    | some open? =>
      simp only [hstep] at h
      exact ih (Prod.ext rfl (Prod.mk.inj h).2)

/-- The characters from a place on are pieces, with an end behind them that has no more. -/
theorem Scanned.exists_pieces {p : Position} {cs : List Char} {s : Scan} (h : Scanned p cs s)
    {before : List Char} (hp : p = Position.behind before) :
    ∃ pieces rest s', (∀ piece ∈ pieces, piece.Spells) ∧ cs = Piece.charsOf pieces ++ rest ∧
      s = s'.prepend (Piece.lexemesOf before pieces) ∧
      Ends (Position.behind (before ++ Piece.charsOf pieces)) rest s' := by
  have hnil : p = Position.behind (before ++ Piece.charsOf []) :=
    hp.trans (congrArg Position.behind (List.append_nil before).symm)
  induction h generalizing before with
  | @stop p cs hsplit => exact ⟨[], cs, _, nofun, rfl, rfl, hnil ▸ .stop (trivia_of_splitTrivia_nil hsplit)⟩
  | @fault p cs trivia rest c fault hsplit hcut =>
    have hcs := splitTrivia_append false cs
    rw [hsplit] at hcs
    have hfault := explains_of_cutLexeme (not_isBlank_of_splitTrivia hsplit) hcut
    exact ⟨[], trivia ++ c :: rest, _, nofun, hcs.symm, rfl,
      hnil ▸ .fault (trivia_of_splitTrivia hsplit) hfault⟩
  | @lexeme p cs trivia spelled rest c cut s hsplit hcut hsize _ ih =>
    let piece : Piece := ⟨trivia, c :: spelled, cut.token⟩
    have hcs := splitTrivia_append false cs
    rw [hsplit] at hcs
    have hspells : piece.Spells := {
      trivia := trivia_of_splitTrivia hsplit
      text := List.cons_ne_nil c spelled
      alone := (isLexeme_of_cutLexeme hcut hsize).tokenize_eq }
    have hplace : (p.after trivia).after (c :: spelled) = Position.behind (before ++ piece.chars) := by
      rw [hp, ← Position.after_append, Position.after_behind]
      rfl
    have ⟨pieces, rest', s', hpieces, hrest, hs, hend⟩ :=
      ih hplace (hplace.trans (congrArg Position.behind (List.append_nil _).symm))
    refine ⟨piece :: pieces, rest', s', List.forall_mem_cons.mpr ⟨hspells, hpieces⟩, ?_, ?_, ?_⟩
    · simp [← hcs, hrest, piece, Piece.charsOf, Piece.chars]
    · rw [hs, hp, Position.after_behind]
      rfl
    · rw [List.append_assoc] at hend
      exact hend

theorem Scan.toList_fault_prepend (e : LexError) (ts : List Lexeme) :
    ((Scan.fault e).prepend ts).toList = .error e := by
  induction ts with
  | nil => rfl
  | cons t ts ih => rw [Scan.prepend, Scan.toList, ih, Except.map]

/-- Every script is cut into pieces, up to its end or to a character that starts no lexeme. -/
theorem cuts_tokenize (source : String) : Cuts source (tokenize source) := by
  have ⟨pieces, rest, s, hpieces, hsource, hscan, hend⟩ :=
    (scanned_scanFrom Position.start source.toList).exists_pieces (show _ = Position.behind [] from rfl)
  rw [tokenize, scan, hscan]
  cases hend with
  | stop hlast =>
    have hstop : (Position.behind ([] ++ Piece.charsOf pieces)).after rest =
        Position.behind source.toList := by
      rw [Position.after_behind, hsource]
      rfl
    rw [Scan.toList_eq_ok.mpr rfl, hstop]
    have hordered := Piece.pairwise_before (fun p hp => (hpieces p hp).text) [] rest
    rw [List.nil_append, ← hsource] at hordered
    exact .ok hpieces hlast hsource hordered
  | fault htrivia hfault =>
    rw [Scan.toList_fault_prepend, Position.after_behind]
    exact .error hpieces htrivia (hsource.trans (List.append_assoc _ _ _).symm) hfault

end Quarry.Script
