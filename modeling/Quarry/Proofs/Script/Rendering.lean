import Quarry.Proofs.Number.Reading
import Quarry.Proofs.Script.Lexing

/-!
# Tokens in writing

The texts of a token, and scripts written token by token with white space and comments between them. The
lexemes of such a script are the tokens that were written: text in quotes may hold anything, and no token
takes part of the next.
-/

namespace Quarry.Script

/-! ## 1. Texts of tokens -/

/-- The texts of operators, parentheses and separators. -/
def symbolTexts : List (List Char × Token) :=
  [([','], .comma), ([';'], .semicolon), (['('], .lparen), ([')'], .rparen), (['+'], .plus),
    (['-'], .minus), (['*'], .star), (['/'], .slash), (['%'], .percent), (['='], .eq),
    (['=', '='], .eq), (['!', '='], .notEq), (['<', '>'], .notEq), (['<'], .lt), (['>'], .gt),
    (['<', '='], .ltEq), (['>', '='], .gtEq)]

/-- A text with each quote of one kind written twice. -/
def doubled (quote : Char) (text : List Char) : List Char :=
  text.flatMap fun c => if c = quote then [c, c] else [c]

/-- A text between quotes of one kind. -/
def quotedWith (quote : Char) (text : List Char) : List Char :=
  quote :: (doubled quote text ++ [quote])

/-- The texts that a token can have in a script. -/
inductive Token.Renders : Token → List Char → Prop where
  | symbol {t : Token} {text : List Char} (h : (text, t) ∈ symbolTexts) : Renders t text
  /-- A keyword in any letter case. -/
  | keyword {t : Token} {word : List Char} (h : keyword? (String.ofList word).toLower = some t) :
      Renders t word
  /-- A word that is no keyword. -/
  | name {c : Char} {cs : List Char} (hc : startsWord c) (hcs : ∀ d ∈ cs, continuesWord d)
      (hname : keyword? (String.ofList (c :: cs)).toLower = none) :
      Renders (.identifier (String.ofList (c :: cs))) (c :: cs)
  /-- A decimal, with zeros in front or without. -/
  | integer (zeros : Nat) {n : Int64} (hn : 0 ≤ n) :
      Renders (.integer n) (List.replicate zeros '0' ++ Nat.toDigits 10 n.toInt.toNat)
  /-- Digits on both sides of a point. -/
  | float {whole fraction : List Char} {x : Float} (hdigits : ∀ c ∈ whole ++ fraction, c.isDigit)
      (hwhole : whole ≠ []) (hfraction : fraction ≠ [])
      (hx : Number.readFloat? (whole ++ '.' :: fraction) = some x) :
      Renders (.float x) (whole ++ '.' :: fraction)
  | string {quote : Char} (hquote : quote = '\'' ∨ quote = '"') (text : String) :
      Renders (.string text) (quotedWith quote text.toList)

/-- The text is one lexeme, from its first character to its last. -/
def Token.IsLexeme (t : Token) (text : List Char) : Prop :=
  ∃ c cs, text = c :: cs ∧ cutLexeme c cs = .ok ⟨t, cs.length + 1⟩

theorem isLexeme_symbol {t : Token} {text : List Char} (h : (text, t) ∈ symbolTexts) :
    t.IsLexeme text := by
  simp only [symbolTexts, List.mem_cons, Prod.mk.injEq, List.not_mem_nil, or_false] at h
  rcases h with ⟨rfl, rfl⟩ | ⟨rfl, rfl⟩ | ⟨rfl, rfl⟩ | ⟨rfl, rfl⟩ | ⟨rfl, rfl⟩ | ⟨rfl, rfl⟩ |
    ⟨rfl, rfl⟩ | ⟨rfl, rfl⟩ | ⟨rfl, rfl⟩ | ⟨rfl, rfl⟩ | ⟨rfl, rfl⟩ | ⟨rfl, rfl⟩ | ⟨rfl, rfl⟩ |
    ⟨rfl, rfl⟩ | ⟨rfl, rfl⟩ | ⟨rfl, rfl⟩ | ⟨rfl, rfl⟩ <;> exact ⟨_, _, rfl, rfl⟩

/-- The characters that symbols start with. -/
def symbolStarts : List Char := [',', ';', '(', ')', '+', '-', '*', '/', '%', '=', '!', '<', '>']

-- A character of a class is none of those outside of it.
theorem notMem_of_class {p : Char → Bool} {l : List Char} {c : Char} (hl : l.any p = false)
    (hc : p c) : c ∉ l := by
  intro hmem
  exact List.any_eq_false.mp hl c hmem hc

-- What no symbol starts with is cut as a text in quotes, a word or a number.
theorem cutLexeme_eq_cutLonger {c : Char} (hc : c ∉ symbolStarts) (cs : List Char) :
    cutLexeme c cs = cutLonger c cs := by
  simp only [symbolStarts, List.mem_cons, List.not_mem_nil, or_false, not_or] at hc
  obtain ⟨h1, h2, h3, h4, h5, h6, h7, h8, h9, h10, h11, h12, h13⟩ := hc
  rw [cutLexeme]
  · rfl
  all_goals first | assumption | exact fun _ h => absurd h (by assumption)

/-! ## 2. Words -/

theorem cutLexeme_word {c : Char} {cs : List Char} (hc : startsWord c)
    (hcs : ∀ d ∈ cs, continuesWord d) :
    cutLexeme c cs = .ok ⟨Token.ofWord (String.ofList (c :: cs)), cs.length + 1⟩ := by
  have hquote : ¬(c = '\'' ∨ c = '"') := by
    rintro (rfl | rfl) <;> exact absurd hc (by decide)
  have hword : cs.takeWhile continuesWord = cs := List.takeWhile_eq_self_iff.mpr hcs
  rw [cutLexeme_eq_cutLonger (notMem_of_class (by decide) hc), cutLonger, if_neg hquote, if_pos hc,
    hword]
  rfl

-- A keyword is a word of letters.
theorem letters_of_keyword? {word : String} {t : Token} (h : Token.keyword? word = some t) :
    word.toList ≠ [] ∧ word.toList.all Char.isLower := by
  unfold Token.keyword? at h
  split at h
  case h_26 => cases h
  all_goals decide

theorem isAlpha_of_isLower_toLower {c : Char} (h : c.toLower.isLower) : c.isAlpha := by
  unfold Char.isAlpha
  by_cases hupper : c.isUpper
  · rw [hupper, Bool.true_or]
  · have hrange : ¬(c.val ≥ 'A'.val ∧ c.val ≤ 'Z'.val) := fun h => hupper (decide_eq_true h)
    have hlower : c.toLower = c := dif_neg hrange
    rw [hlower] at h
    rw [h, Bool.or_true]

theorem isLexeme_keyword {t : Token} {word : List Char}
    (h : Token.keyword? (String.ofList word).toLower = some t) : t.IsLexeme word := by
  obtain ⟨hne, hlower⟩ := letters_of_keyword? h
  have hchars : (String.ofList word).toLower.toList = word.map Char.toLower := by
    show ((String.ofList word).map Char.toLower).toList = _
    rw [String.toList_map, String.toList_ofList]
  rw [hchars] at hne hlower
  have halpha : ∀ d ∈ word, Text.isAlphabetic d := by
    intro d hd
    have hlower := List.all_eq_true.mp hlower _ (List.mem_map_of_mem hd)
    exact Text.isAlphabetic_of_isAlpha (isAlpha_of_isLower_toLower hlower)
  cases word with
  | nil => exact absurd rfl hne
  | cons c cs =>
    refine ⟨c, cs, rfl, ?_⟩
    rw [cutLexeme_word]
    · rw [Token.ofWord, h]
      rfl
    · simp [startsWord, halpha c List.mem_cons_self]
    · intro d hd
      simp [continuesWord, Text.isAlphanumeric, halpha d (List.mem_cons_of_mem c hd)]

theorem isLexeme_name {c : Char} {cs : List Char} (hc : startsWord c)
    (hcs : ∀ d ∈ cs, continuesWord d)
    (hname : Token.keyword? (String.ofList (c :: cs)).toLower = none) :
    (Token.identifier (String.ofList (c :: cs))).IsLexeme (c :: cs) := by
  refine ⟨c, cs, rfl, ?_⟩
  rw [cutLexeme_word hc hcs, Token.ofWord, hname]
  rfl

/-! ## 3. Numbers -/

theorem startsWord_of_isDigit {c : Char} (hc : c.isDigit) : startsWord c = false := by
  have hrange : 48 ≤ c.toNat ∧ c.toNat < 58 := by
    simp only [Char.isDigit, Bool.and_eq_true, decide_eq_true_eq] at hc
    exact ⟨hc.1, Nat.lt_succ_of_le hc.2⟩
  have hall : ∀ n < 58, 48 ≤ n → startsWord (Char.ofNat n) = false := by decide
  have hword := hall c.toNat hrange.2 hrange.1
  rwa [Char.ofNat_toNat] at hword

theorem cutLexeme_number {c : Char} (hc : c.isDigit) (cs : List Char) :
    cutLexeme c cs = cutNumber (c :: cs) := by
  have hquote : ¬(c = '\'' ∨ c = '"') := by
    rintro (rfl | rfl) <;> exact absurd hc (by decide)
  have hword : ¬startsWord c = true := Bool.eq_false_iff.mp (startsWord_of_isDigit hc)
  rw [cutLexeme_eq_cutLonger (notMem_of_class (by decide) hc), cutLonger, if_neg hquote,
    if_neg hword, if_pos hc]

-- A text that starts with a digit is a lexeme if it is cut whole as a number.
theorem isLexeme_of_cutNumber {t : Token} {text : List Char} (hhead : ∀ c ∈ text.head?, c.isDigit)
    (hne : text ≠ []) (h : cutNumber text = .ok ⟨t, text.length⟩) : t.IsLexeme text := by
  cases text with
  | nil => exact absurd rfl hne
  | cons c cs => exact ⟨c, cs, rfl, (cutLexeme_number (hhead c rfl) cs).trans h⟩

theorem isLexeme_integer {digits : List Char} {n : Int64} (hne : digits ≠ [])
    (hdigits : ∀ c ∈ digits, c.isDigit) (hn : Number.int64? (Number.ofDigits digits) = some n) :
    (Token.integer n).IsLexeme digits := by
  refine isLexeme_of_cutNumber (fun c hc => hdigits c (List.mem_of_mem_head? hc)) hne ?_
  have hwhole : digits.takeWhile Char.isDigit = digits := List.takeWhile_eq_self_iff.mpr hdigits
  have hfraction : fractionDigits digits = [] := by
    rw [fractionDigits, hwhole, List.drop_length]
  rw [cutNumber_eq, hfraction, hwhole, hn]
  rfl

theorem isLexeme_decimal (zeros : Nat) {n : Int64} (hn : 0 ≤ n) :
    (Token.integer n).IsLexeme (List.replicate zeros '0' ++ Nat.toDigits 10 n.toInt.toNat) := by
  apply isLexeme_integer
  · exact List.append_ne_nil_of_right_ne_nil _ Nat.toDigits_ne_nil
  · intro c hc
    rcases List.mem_append.mp hc with hzero | hdigit
    · rw [List.eq_of_mem_replicate hzero]
      rfl
    · exact Nat.isDigit_of_mem_toDigits (by decide) (by decide) hdigit
  · have hnat : (n.toInt.toNat : Int) = n.toInt :=
      Int.toNat_of_nonneg (Int64.le_iff_toInt_le.mp hn)
    rw [Number.ofDigits_toDigits, hnat, Number.int64?_toInt]

theorem cutNumber_decimal {whole fraction : List Char} (hdigits : ∀ c ∈ whole ++ fraction, c.isDigit)
    (hfraction : fraction ≠ []) : cutNumber (whole ++ '.' :: fraction) =
      .ok ⟨.float (Number.floatOf (Number.ofDigits (whole ++ fraction)) (-(fraction.length : Int))),
        (whole ++ '.' :: fraction).length⟩ := by
  obtain ⟨htake, -, hftake, -⟩ := Number.takeWhile_decimal hdigits
  have hpart : fractionDigits (whole ++ '.' :: fraction) = fraction := by
    rw [fractionDigits, htake, List.drop_left]
    exact hftake
  have hsize : whole.length + 1 + fraction.length = (whole ++ '.' :: fraction).length := by
    simp only [List.length_append, List.length_cons]
    omega
  rw [cutNumber_eq, hpart, htake, if_neg (by simpa using hfraction), hsize]

theorem isLexeme_float {whole fraction : List Char} {x : Float}
    (hdigits : ∀ c ∈ whole ++ fraction, c.isDigit) (hwhole : whole ≠ []) (hfraction : fraction ≠ [])
    (hx : Number.readFloat? (whole ++ '.' :: fraction) = some x) :
    (Token.float x).IsLexeme (whole ++ '.' :: fraction) := by
  rw [Number.readFloat?_decimal hdigits hwhole] at hx
  cases hx
  refine isLexeme_of_cutNumber ?_ (List.append_ne_nil_of_left_ne_nil hwhole _)
    (cutNumber_decimal hdigits hfraction)
  intro c hc
  rw [List.head?_append_of_ne_nil _ hwhole] at hc
  exact hdigits c (List.mem_append_left _ (List.mem_of_mem_head? hc))

/-! ## 4. Texts in quotes -/

theorem readQuoted?_doubled (quote : Char) (text : List Char) :
    readQuoted? quote (doubled quote text ++ [quote]) =
      some (text, (doubled quote text ++ [quote]).length) := by
  induction text with
  | nil => simp [doubled, readQuoted?]
  | cons c text ih =>
    by_cases hc : c = quote
    · subst hc
      have hcons : doubled c (c :: text) ++ [c] = c :: c :: (doubled c text ++ [c]) := by
        simp [doubled]
      rw [hcons, readQuoted?, if_pos rfl]
      simp [ih]
    · have hcons : doubled quote (c :: text) ++ [quote] = c :: (doubled quote text ++ [quote]) := by
        simp [doubled, hc]
      rw [hcons, readQuoted?.eq_def]
      simp [hc, ih]

theorem isLexeme_string {quote : Char} (hquote : quote = '\'' ∨ quote = '"') (text : String) :
    (Token.string text).IsLexeme (quotedWith quote text.toList) := by
  refine ⟨_, _, rfl, ?_⟩
  have hstart : quote ∉ symbolStarts := by
    rcases hquote with rfl | rfl <;> decide
  rw [cutLexeme_eq_cutLonger hstart, cutLonger, if_pos hquote, readQuoted?_doubled]
  simp

/-! ## 5. Scripts -/

theorem Token.Renders.isLexeme {t : Token} {text : List Char} (h : t.Renders text) :
    t.IsLexeme text := by
  cases h with
  | symbol h => exact isLexeme_symbol h
  | keyword h => exact isLexeme_keyword h
  | name hc hcs hname => exact isLexeme_name hc hcs hname
  | integer zeros hn => exact isLexeme_decimal zeros hn
  | float hdigits hwhole hfraction hx => exact isLexeme_float hdigits hwhole hfraction hx
  | string hquote text => exact isLexeme_string hquote text

/-- White space and comments in any order, each comment with the line break that ends it. -/
inductive Trivia : List Char → Prop where
  | nil : Trivia []
  | blank {c : Char} {cs : List Char} (hc : Text.isBlank c) (hcs : Trivia cs) : Trivia (c :: cs)
  | comment {body cs : List Char} (hbody : '\n' ∉ body) (hcs : Trivia cs) :
      Trivia ('-' :: '-' :: (body ++ '\n' :: cs))

/-- The characters are the tokens in writing: behind each of them stands white space, and then any
trivia. -/
inductive Rendering : List Token → List Char → Prop where
  | nil : Rendering [] []
  | cons {t : Token} {ts : List Token} {text trivia cs : List Char} {b : Char} (ht : t.Renders text)
      (hb : Text.isBlank b) (htrivia : Trivia trivia) (hcs : Rendering ts cs) :
      Rendering (t :: ts) (text ++ b :: (trivia ++ cs))

-- A comment is open up to the end of its line.
theorem splitTrivia_inside {c : Char} (hc : c ≠ '\n') (cs : List Char) :
    splitTrivia true (c :: cs) = (c :: (splitTrivia true cs).1, (splitTrivia true cs).2) := by
  have hstep : triviaStep? true c cs.head? = some true := by simp [triviaStep?, hc]
  rw [splitTrivia_cons, hstep]

theorem splitTrivia_comment {body : List Char} (hbody : '\n' ∉ body) (ds : List Char) :
    splitTrivia true (body ++ '\n' :: ds) =
      (body ++ '\n' :: (splitTrivia false ds).1, (splitTrivia false ds).2) := by
  induction body with
  | nil => rfl
  | cons c body ih =>
    have hc : c ≠ '\n' := fun h => hbody (h ▸ List.mem_cons_self)
    have hrest := ih fun h => hbody (List.mem_cons_of_mem c h)
    simp only [List.cons_append, splitTrivia_inside hc, hrest]

theorem Trivia.splitTrivia_append {us : List Char} (h : Trivia us) (ds : List Char) :
    splitTrivia false (us ++ ds) = (us ++ (splitTrivia false ds).1, (splitTrivia false ds).2) := by
  induction h with
  | nil => rfl
  | @blank c cs hc _ ih =>
    have hstep : triviaStep? false c (cs ++ ds).head? = some false := by simp [triviaStep?, hc]
    rw [List.cons_append, splitTrivia_cons, hstep]
    simp only [ih, List.cons_append]
  | @comment body cs hbody _ ih =>
    have hopen (cs : List Char) : splitTrivia false ('-' :: '-' :: cs) =
        ('-' :: (splitTrivia true ('-' :: cs)).1, (splitTrivia true ('-' :: cs)).2) := rfl
    simp only [List.cons_append, List.append_assoc]
    rw [hopen, splitTrivia_inside (by decide), splitTrivia_comment hbody, ih]

-- White space starts no lexeme.
theorem cutLexeme_blank {c : Char} (hc : Text.isBlank c) (cs : List Char) :
    cutLexeme c cs = .error (.unexpected c) := by
  have hquote : ¬(c = '\'' ∨ c = '"') := by
    rintro (rfl | rfl) <;> exact absurd hc (by decide)
  have hword : startsWord c = false := by
    have h := continuesWord_of_isBlank hc
    simp only [continuesWord, Text.isAlphanumeric, Bool.or_eq_false_iff] at h
    rw [startsWord, h.1.1, h.2]
    rfl
  rw [cutLexeme_eq_cutLonger (notMem_of_class (by decide) hc), cutLonger, if_neg hquote, hword,
    Text.isDigit_of_isBlank hc]
  rfl

-- In front of white space a lexeme starts no trivia: a minus of its own is none of two.
theorem splitTrivia_lexeme {t : Token} {c b : Char} {cs : List Char}
    (hcut : cutLexeme c cs = .ok ⟨t, cs.length + 1⟩) (hb : Text.isBlank b) (ds : List Char) :
    splitTrivia false (c :: (cs ++ b :: ds)) = ([], c :: (cs ++ b :: ds)) := by
  have hc : Text.isBlank c = false := by
    by_contra hc
    rw [cutLexeme_blank (Bool.not_eq_false _ ▸ hc)] at hcut
    cases hcut
  have hminus : ¬(c = '-' ∧ (cs ++ b :: ds).head? = some '-') := by
    rintro ⟨rfl, hhead⟩
    have hsize : 1 = cs.length + 1 := congrArg Cut.size (Except.ok.inj hcut)
    have hnil : cs = [] := List.length_eq_zero_iff.mp (by omega)
    subst hnil
    exact ne_of_isBlank hb (c := '-') (by decide) (Option.some.inj hhead).symm
  have hstep : triviaStep? false c (cs ++ b :: ds).head? = none := by
    simp only [triviaStep?, hc, if_neg hminus, Bool.false_eq_true, if_false]
  rw [splitTrivia_cons, hstep]

theorem Rendering.scanned {ts : List Token} {cs : List Char} (h : Rendering ts cs) (p : Position) :
    ∃ ls stop, Scanned p cs ((Scan.stop stop).prepend ls) ∧ ls.map Lexeme.token = ts := by
  -- By induction on the tokens: the first one is cut off, and the trivia behind it are skipped.
  induction h generalizing p with
  | nil => exact ⟨[], _, .stop rfl, rfl⟩
  | @cons t ts text trivia rest b ht hb htrivia _ ih =>
    obtain ⟨c, cs, rfl, hcut⟩ := ht.isLexeme
    have hskip := (Trivia.blank hb htrivia).splitTrivia_append rest
    obtain ⟨ls, stop, hrest, htokens⟩ := ih ((p.after (c :: cs)).after (b :: trivia))
    have hbehind := Scanned.of_trivia hskip hrest
    have hhere := cutLexeme_append_blank hb hcut (trivia ++ rest)
    refine ⟨⟨t, p⟩ :: ls, stop, ?_, congrArg (t :: ·) htokens⟩
    exact .lexeme (splitTrivia_lexeme hcut hb (trivia ++ rest)) hhere rfl hbehind

/-- Scanning gives back the tokens that were written, and the end of the script behind them. -/
theorem tokenize_rendering {source : String} {ts : List Token} (h : Rendering ts source.toList) :
    (tokenize source).map (List.map Lexeme.token) = .ok (ts ++ [.eof]) := by
  obtain ⟨ls, stop, hscanned, rfl⟩ := h.scanned Position.start
  have hlexemes : HasLexemes source ls := ⟨stop, hscanned.eq.symm⟩
  obtain ⟨stop, htokenize⟩ := hasLexemes_iff_tokenize.mp hlexemes
  rw [htokenize]
  simp [Except.map]

theorem tokenize_rendering_quotes_and_comments :
    let source := "SeLeCt 'it''s --'''\t--c'\n \n- - 007 <>\u00a0\"\"\"\" 1.50\n_x\n"
    let ts : List Token := [.select, .string "it's --'", .minus, .minus, .integer 7, .notEq,
      .string "\"", .float (Number.floatOf 150 (-2)), .identifier "_x"]
    Rendering ts source.toList ∧
      (tokenize source).map (List.map Lexeme.token) = .ok (ts ++ [.eof]) := by
  intro source ts
  have hselect : Token.Renders .select ['S', 'e', 'L', 'e', 'C', 't'] := .keyword (by decide +kernel)
  have hdigits : ∀ c ∈ ['1'] ++ ['5', '0'], c.isDigit := List.all_eq_true.mp (by decide)
  have hminus : Token.Renders .minus ['-'] := .symbol (by simp [symbolTexts])
  have hseven : Token.Renders (.integer 7) ['0', '0', '7'] := .integer 2 (by decide)
  have hfloat : Token.Renders (.float (Number.floatOf 150 (-2))) (['1'] ++ '.' :: ['5', '0']) :=
    .float hdigits (by decide) (by decide) (Number.readFloat?_decimal hdigits (by decide))
  have hname : Token.Renders (.identifier "_x") ['_', 'x'] :=
    .name (by decide) (List.all_eq_true.mp (by decide)) (by decide +kernel)
  have htrivia : Trivia ('-' :: '-' :: (['c', '\''] ++ '\n' :: [' ', '\n'])) :=
    .comment (by decide) (.blank (by decide) (.blank (by decide) .nil))
  have hwritten :=
    @Rendering.cons _ _ _ [] _ ' ' hselect (by decide) .nil <|
    @Rendering.cons _ _ _ _ _ '\t' (.string (.inl rfl) "it's --'") (by decide) htrivia <|
    @Rendering.cons _ _ _ [] _ ' ' hminus (by decide) .nil <|
    @Rendering.cons _ _ _ [] _ ' ' hminus (by decide) .nil <|
    @Rendering.cons _ _ _ [] _ ' ' hseven (by decide) .nil <|
    @Rendering.cons .notEq _ ['<', '>'] [] _ '\u00a0' (.symbol (by decide)) (by decide) .nil <|
    @Rendering.cons _ _ _ [] _ ' ' (.string (.inr rfl) "\"") (by decide) .nil <|
    @Rendering.cons _ _ _ [] _ '\n' hfloat (by decide) .nil <|
    @Rendering.cons _ _ _ [] _ '\n' hname (by decide) .nil .nil
  have hsource : Rendering ts source.toList :=
    cast (congrArg (Rendering ts) (by decide +kernel)) hwritten
  exact ⟨hsource, tokenize_rendering hsource⟩

end Quarry.Script
