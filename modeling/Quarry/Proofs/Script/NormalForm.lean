import Quarry.Proofs.Number.Reading
import Quarry.Proofs.Script.Lexing
import Quarry.Proofs.Script.Printer

/-!
# Normal form

What the tokens of a script spell is in normal form, and what is printed of a program in normal form are
tokens that a script can have.
-/

namespace Quarry.Script

/-! ## 1. Tokens of scripts -/

/-- The token can stand in a script: numbers have no sign and names are no keywords. -/
def Token.Written : Token → Prop
  | .integer n => 0 ≤ n
  | .float x => x.isNaN = false ∧ Number.negative x = false
  | .identifier name => IsName name
  | .eof => False
  | _ => True

theorem Token.written_of_keyword? {word : String} {t : Token} (h : keyword? word = some t) :
    t.Written := by
  unfold keyword? at h
  split at h <;> cases h <;> trivial

theorem int64?_nonneg {n : Nat} {i : Int64} (h : Number.int64? n = some i) : 0 ≤ i := by
  rw [Int64.le_iff_toInt_le, Number.int64?_eq_some.mp h]
  exact Int.natCast_nonneg n

theorem Token.IsCut.written {t : Token} (h : t.IsCut) : t.Written := by
  cases h with
  | symbol h =>
    cases t with
    | integer _ | float _ | identifier _ | eof => cases h
    | _ => trivial
  | text _ => trivial
  | word word =>
    rcases ofWord_cases word with ⟨t, hkeyword, ht⟩ | ⟨hnone, hidentifier⟩
    · exact ht ▸ written_of_keyword? hkeyword
    · rw [hidentifier]
      exact hnone
  | integer h => exact int64?_nonneg h
  | float digits places =>
    have hsign := Number.hasSign_floatOf (Number.ofDigits digits) (-(places : Int))
    exact ⟨hsign.isNaN, Bool.eq_false_iff.mpr fun h => nomatch hsign.negative.mp h⟩

/-- All tokens of the lexemes can stand in a script. -/
def AllWritten (ts : List Lexeme) : Prop := ∀ l ∈ ts, l.token.Written

@[simp] theorem allWritten_cons {l : Lexeme} {ts : List Lexeme} :
    AllWritten (l :: ts) ↔ l.token.Written ∧ AllWritten ts :=
  List.forall_mem_cons

@[simp] theorem allWritten_append {ts us : List Lexeme} :
    AllWritten (ts ++ us) ↔ AllWritten ts ∧ AllWritten us :=
  List.forall_mem_append

/-! ## 2. Expressions -/

theorem neg_ne_minValue {n : Int64} (h : n ≠ Int64.minValue) : -n ≠ Int64.minValue := by
  intro hneg
  have hn : - -n = -Int64.minValue := congrArg Neg.neg hneg
  rw [Int64.neg_neg] at hn
  exact h (hn.trans (by decide))

-- Only the least integer has no opposite.
theorem toInt_neg_of_ne_minValue {n : Int64} (h : n ≠ Int64.minValue) : (-n).toInt = -n.toInt := by
  have hle := Int64.minValue_le_toInt n
  have hge := Int64.toInt_le n
  have hne : n.toInt ≠ Int64.minValue.toInt := Int64.toInt_inj.ne.mpr h
  have hmin : Int64.minValue.toInt = -2 ^ 63 := rfl
  have hmax : Int64.maxValue.toInt = 2 ^ 63 - 1 := rfl
  rw [Int64.toInt_neg, Int.bmod_eq_of_le (by omega) (by omega)]

theorem normal_literal {t : Token} {v : Value} (ht : t.Written) (hv : t.literal? = some v) :
    NormalLiteral v := by
  cases t <;> cases hv
  case integer n =>
    rintro rfl
    exact absurd (show (0 : Int64) ≤ Int64.minValue from ht) (by decide)
  case float x => exact ht.1
  case string | boolean | null => trivial

theorem normal_negate {e : Expr} (h : e.Normal) (p : Position) : (Parser.negate p e).Normal := by
  have hzero : (Expr.literal (.integer 0)).Normal := show (0 : Int64) ≠ Int64.minValue by decide
  cases e with
  | literal v =>
    cases v with
    | integer n => exact neg_ne_minValue h
    | float x =>
      obtain ⟨s, hs⟩ := Number.exists_sign h
      exact hs.neg.isNaN
    | null | boolean _ | string _ => exact ⟨hzero, h⟩
  | _ => exact ⟨hzero, h⟩

/-- What a part of an expression is if its tokens can stand in a script. -/
def Phrase.Normal : Phrase → Prop
  | .expr _ e => e.Normal
  | .tail _ left whole => left.Normal → whole.Normal
  | .branches b => b.Normal

theorem Phrase.Spelled.normal {p : Phrase} {ts : List Lexeme} (h : p.Spelled ts)
    (hts : AllWritten ts) : p.Normal := by
  -- By induction on the spelling: each rule makes normal wholes of normal parts.
  induction h with
  | literal hl => exact normal_literal (allWritten_cons.mp hts).1 hl
  | @column l name hl =>
    have hname : l.token.Written := (allWritten_cons.mp hts).1
    rw [hl] at hname
    exact hname
  | pick _ hp =>
    cases hp with
    | intro _ _ _ _ hmatch => exact hmatch
  | simpleCase _ _ _ hcondition ihsubject ihb =>
    simp only [allWritten_cons, allWritten_append] at hts
    exact ⟨ihsubject hts.2.1, hcondition, ihb hts.2.2⟩
  | searchedCase _ _ hcondition ih => exact ⟨hcondition, ih (allWritten_cons.mp hts).2⟩
  | parens _ _ _ ih =>
    simp only [allWritten_cons, allWritten_append] at hts
    exact ih hts.2.1
  | minus _ _ ih => exact normal_negate (ih (allWritten_cons.mp hts).2) _
  | loose _ _ ih => exact ih hts
  | not _ _ ih => exact ih (allWritten_cons.mp hts).2
  | comparison _ _ _ ihleft ihright =>
    simp only [allWritten_cons, allWritten_append] at hts
    exact ⟨ihleft hts.1, ihright hts.2.2⟩
  | chain _ _ _ ihfirst ihtail =>
    simp only [allWritten_append] at hts
    exact ihtail hts.2 (ihfirst hts.1)
  | stop => exact fun h => h
  | step _ _ _ ihright ihtail =>
    simp only [allWritten_cons, allWritten_append] at hts
    exact fun hleft => ihtail hts.2.2 ⟨hleft, ihright hts.2.1⟩
  | done _ => trivial
  | otherwise _ _ _ ih =>
    simp only [allWritten_cons, allWritten_append] at hts
    exact ih hts.2.1
  | branch _ _ _ _ _ ihcondition ihresult ihb =>
    simp only [allWritten_cons, allWritten_append] at hts
    exact ⟨ihcondition hts.2.1, ihresult hts.2.2.2.1, ihb hts.2.2.2.2⟩

theorem Expr.Spelled.normal {e : Expr} {ts : List Lexeme} (h : e.Spelled ts)
    (hts : AllWritten ts) : e.Normal :=
  Phrase.Spelled.normal h hts

/-! ## 3. Statements -/

section Pieces

variable {α : Type} {item : α → List Lexeme → Prop} {P : α → Prop} {ts : List Lexeme}

theorem Optionally.forall {keyword : Token} {o : Option α} (h : Optionally keyword item o ts)
    (hts : AllWritten ts) (hitem : ∀ {a us}, item a us → AllWritten us → P a) : ∀ a ∈ o, P a := by
  cases h with
  | none => nofun
  | some _ ha =>
    intro a hmem
    cases hmem
    exact hitem ha (allWritten_cons.mp hts).2

theorem Listed.forall {as : List α} (h : Listed item as ts) (hts : AllWritten ts)
    (hitem : ∀ {a us}, item a us → AllWritten us → P a) : as ≠ [] ∧ ∀ a ∈ as, P a := by
  induction h with
  | one ha => exact ⟨nofun, List.forall_mem_singleton.mpr (hitem ha hts)⟩
  | more ha _ _ ih =>
    simp only [allWritten_cons, allWritten_append] at hts
    exact ⟨nofun, List.forall_mem_cons.mpr ⟨hitem ha hts.1, (ih hts.2.2).2⟩⟩

theorem Enclosed.inner {a : α} (h : Enclosed item a ts) (hts : AllWritten ts) :
    ∃ us, item a us ∧ AllWritten us := by
  cases h with
  | bare ha => exact ⟨_, ha, hts⟩
  | parens _ ha _ =>
    simp only [allWritten_cons, allWritten_append] at hts
    exact ⟨_, ha, hts.2.1⟩

end Pieces

theorem isName_of_identifier {l : Lexeme} {name : String} (hl : l.token = .identifier name)
    (h : l.token.Written) : IsName name := by
  rw [hl] at h
  exact h

theorem NameSpelled.isName {name : String} {ts : List Lexeme} (h : NameSpelled name ts)
    (hts : AllWritten ts) : IsName name := by
  cases h with
  | intro hl => exact isName_of_identifier hl (allWritten_cons.mp hts).1

theorem Hint.Spelled.normal {hint : Hint} {ts : List Lexeme} (h : hint.Spelled ts)
    (hts : AllWritten ts) : hint.Normal := by
  cases h with
  | js _ => trivial
  | thread _ hcount =>
    obtain ⟨us, hspelled, hus⟩ := hcount.inner (allWritten_cons.mp hts).2
    cases hspelled with
    | intro hl =>
      have hwritten := (allWritten_cons.mp hus).1
      rw [hl] at hwritten
      exact hwritten

theorem HintsSpelled.normal {hints : List Hint} {ts : List Lexeme} (h : HintsSpelled hints ts)
    (hts : AllWritten ts) : ∀ hint ∈ hints, hint.Normal := by
  induction h with
  | none => nofun
  | clause _ hhints _ ih =>
    simp only [allWritten_cons, allWritten_append] at hts
    obtain ⟨us, hlisted, hus⟩ := hhints.inner hts.2.1
    exact List.forall_mem_append.mpr ⟨(hlisted.forall hus Hint.Spelled.normal).2, ih hts.2.2⟩

theorem Projection.Spelled.normal {p : Projection} {ts : List Lexeme} (h : p.Spelled ts)
    (hts : AllWritten ts) : p.Normal := by
  cases h with
  | star _ => trivial
  | item he _ => exact he.normal (allWritten_append.mp hts).1

mutual

theorem Select.Spelled.normal {q : Select Unit} {ts : List Lexeme} :
    q.Spelled ts → AllWritten ts → q.Normal
  | .intro _ hprojections hsource hfilter hhints hfollow, hts => by
    simp only [allWritten_cons, allWritten_append] at hts
    obtain ⟨_, hts, hts₁, hts₂, hts₃⟩ := hts
    obtain ⟨hne, hnormal⟩ := hprojections.forall hts Projection.Spelled.normal
    exact ⟨hne, hnormal, hsource.normal hts₁, hfilter.forall hts₂ Expr.Spelled.normal,
      hhints.normal hts₃, hfollow⟩

theorem Source.Spelled.normal {source : Source Unit} {ts : List Lexeme} :
    source.Spelled ts → AllWritten ts → source.Normal
  | .nothing, _ => trivial
  | .buffer _ hl, hts => by
    simp only [allWritten_cons] at hts
    exact isName_of_identifier hl hts.2.1
  | .download _ _ _ _ hhints, hts => by
    simp only [allWritten_cons, allWritten_append] at hts
    exact hhints.normal hts.2.2.2.2
  | .downloadEach _ _ _ _ hurls _ hhints, hts => by
    simp only [allWritten_cons, allWritten_append] at hts
    exact ⟨hurls.normal hts.2.2.2.2.1, hhints.normal hts.2.2.2.2.2.2⟩

end

theorem ColumnDecl.Spelled.normal {c : ColumnDecl} {ts : List Lexeme} (h : c.Spelled ts)
    (hts : AllWritten ts) : c.Normal := by
  cases h with
  | plain hl ht =>
    simp only [allWritten_cons] at hts
    exact ⟨isName_of_identifier hl hts.1, isName_of_identifier ht hts.2.1, beq_iff_eq.mpr⟩
  | identity hl ht _ =>
    simp only [allWritten_cons] at hts
    exact ⟨isName_of_identifier hl hts.1, isName_of_identifier ht hts.2.1, fun _ => rfl⟩

theorem TargetsSpelled.normal {columns : Option (List String)} {ts : List Lexeme}
    (h : TargetsSpelled columns ts) (hts : AllWritten ts) :
    ∀ names ∈ columns, names ≠ [] ∧ ∀ name ∈ names, IsName name := by
  cases h with
  | none => nofun
  | some _ hnames _ =>
    simp only [allWritten_cons, allWritten_append] at hts
    intro names hmem
    cases hmem
    exact hnames.forall hts.2.1 NameSpelled.isName

theorem Statement.Spelled.normal {s : Statement Unit} {ts : List Lexeme} (h : s.Spelled ts)
    (hts : AllWritten ts) : s.Normal := by
  cases h with
  | createBuffer _ _ hname _ hcolumns _ =>
    simp only [allWritten_cons, allWritten_append] at hts
    obtain ⟨_, _, hts, _, hts', _⟩ := hts
    exact ⟨hname.isName hts, hcolumns.forall hts' ColumnDecl.Spelled.normal⟩
  | insert _ _ htarget hcolumns hselect =>
    simp only [allWritten_cons, allWritten_append] at hts
    obtain ⟨_, _, hts, hts', hts''⟩ := hts
    exact ⟨htarget.isName hts, hcolumns.normal hts', hselect.normal hts''⟩
  | select hselect => exact hselect.normal hts

/-- What a script spells is in normal form. -/
theorem Program.Spelled.normal {p : Program Unit} {ts : List Lexeme} (h : Program.Spelled p ts)
    (hts : AllWritten ts) : p.Normal := by
  induction h with
  | nil => nofun
  | semicolon _ _ ih => exact ih (allWritten_cons.mp hts).2
  | statement hs _ ih =>
    obtain ⟨hts, hts'⟩ := allWritten_append.mp hts
    exact List.forall_mem_cons.mpr ⟨hs.normal hts, ih hts'⟩

/-! ## 4. Printed tokens -/

theorem neg_nonneg_of_neg {n : Int64} (hmin : n ≠ Int64.minValue) (h : n < 0) : 0 ≤ -n := by
  have hn : n.toInt < 0 := Int64.lt_iff_toInt_lt.mp h
  rw [Int64.le_iff_toInt_le, toInt_neg_of_ne_minValue hmin]
  show (0 : Int) ≤ _
  omega

theorem written_literal {v : Value} (h : NormalLiteral v) : ∀ t ∈ printLiteral v, t.Written := by
  cases v with
  | null | boolean _ | string _ => exact List.forall_mem_singleton.mpr trivial
  | integer n =>
    rw [printLiteral]
    split
    case isTrue hn =>
      exact List.forall_mem_cons.mpr ⟨trivial, List.forall_mem_singleton.mpr (neg_nonneg_of_neg h hn)⟩
    case isFalse hn => exact List.forall_mem_singleton.mpr (Int64.not_lt.mp hn)
  | float x =>
    obtain ⟨s, hs⟩ := Number.exists_sign h
    rw [printLiteral]
    split
    case isTrue hx =>
      obtain rfl := hs.negative.mp hx
      have hneg := hs.neg
      refine List.forall_mem_cons.mpr ⟨trivial, List.forall_mem_singleton.mpr ⟨hneg.isNaN, ?_⟩⟩
      exact Bool.eq_false_iff.mpr fun h => nomatch hneg.negative.mp h
    case isFalse hx => exact List.forall_mem_singleton.mpr ⟨h, Bool.eq_false_iff.mpr hx⟩

-- The words that mean something in one place of the grammar only are no keywords.
theorem isName_words : ∀ word ∈ ["text", "html", "attribute", "js", "thread", "page", "json", "image",
    "identity"], IsName word := by
  unfold IsName
  decide +kernel

theorem isName_word (kind : DownloadKind) : IsName kind.word :=
  isName_words _ (by cases kind <;> decide)

theorem written_commas {α : Type} {print : α → List Token} {as : List α}
    (h : ∀ a ∈ as, ∀ t ∈ print a, t.Written) : ∀ t ∈ commas (as.map print), t.Written := by
  induction as with
  | nil => nofun
  | cons a as ih =>
    rw [List.forall_mem_cons] at h
    cases as with
    | nil => exact h.1
    | cons a' as =>
      exact List.forall_mem_append.mpr ⟨h.1, List.forall_mem_cons.mpr ⟨trivial, ih h.2⟩⟩

theorem written_behind {α : Type} (keyword : Token) (hkeyword : keyword.Written)
    {print : α → List Token} {o : Option α} (h : ∀ a ∈ o, ∀ t ∈ print a, t.Written) :
    ∀ t ∈ behind keyword print o, t.Written := by
  cases o with
  | none => nofun
  | some a => exact List.forall_mem_cons.mpr ⟨hkeyword, h a rfl⟩

theorem written_text (text : String) : ∀ t ∈ printText text, t.Written :=
  List.forall_mem_singleton.mpr trivial

theorem written_name {name : String} (h : IsName name) : ∀ t ∈ printName name, t.Written :=
  List.forall_mem_singleton.mpr h

theorem written_take (take : Take) : ∀ t ∈ take.print, t.Written := by
  cases take with
  | text => exact written_name (isName_words "text" (by decide))
  | html => exact written_name (isName_words "html" (by decide))
  | «attribute» name =>
    exact List.forall_mem_cons.mpr ⟨isName_words "attribute" (by decide), written_text name⟩

theorem written_pick (p : Pick) : ∀ t ∈ p.print, t.Written := by
  simp only [Pick.print, List.forall_mem_append]
  exact ⟨written_text _, written_behind .take trivial fun take _ => written_take take,
    written_behind .match trivial fun text _ => written_text text,
    written_behind .replace trivial fun text _ => written_text text⟩

theorem written_enclose {need level : Level} {ts : List Token} (h : ∀ t ∈ ts, t.Written) :
    ∀ t ∈ need.enclose level ts, t.Written := by
  rw [Level.enclose]
  split
  · exact List.forall_mem_cons.mpr ⟨trivial, List.forall_mem_append.mpr
      ⟨h, List.forall_mem_singleton.mpr trivial⟩⟩
  · exact h

theorem written_operator (op : Operator) : (Token.ofOperator op).Written := by
  cases op <;> trivial

mutual

theorem Expr.written : (e : Expr) → e.Normal → ∀ t ∈ e.print, t.Written
  | .literal _, h => written_literal h
  | .column _ _, h => written_name h
  | .pick pick _, _ => List.forall_mem_cons.mpr ⟨trivial, written_pick pick⟩
  | .simpleCase subject b _, h =>
    List.forall_mem_cons.mpr ⟨trivial, List.forall_mem_append.mpr
      ⟨subject.written h.1, b.written h.2.2⟩⟩
  | .searchedCase b _, h => List.forall_mem_cons.mpr ⟨trivial, b.written h.2⟩
  | .binary op left right _, h =>
    List.forall_mem_append.mpr ⟨written_enclose (left.written h.1),
      List.forall_mem_cons.mpr ⟨written_operator op, written_enclose (right.written h.2)⟩⟩
  | .not e, h => List.forall_mem_cons.mpr ⟨trivial, written_enclose (e.written h)⟩

theorem Branches.written : (b : Branches) → b.Normal → ∀ t ∈ b.print, t.Written
  | .done, _ => List.forall_mem_singleton.mpr trivial
  | .otherwise e, h =>
    List.forall_mem_cons.mpr ⟨trivial, List.forall_mem_append.mpr
      ⟨e.written h, List.forall_mem_singleton.mpr trivial⟩⟩
  | .branch condition result b, h =>
    List.forall_mem_cons.mpr ⟨trivial, List.forall_mem_append.mpr ⟨condition.written h.1,
      List.forall_mem_cons.mpr ⟨trivial, List.forall_mem_append.mpr
        ⟨result.written h.2.1, b.written h.2.2⟩⟩⟩⟩

end

theorem written_hints {hints : List Hint} (h : ∀ hint ∈ hints, hint.Normal) :
    ∀ t ∈ printHints hints, t.Written := by
  cases hints with
  | nil => nofun
  | cons hint hints =>
    refine List.forall_mem_cons.mpr ⟨trivial, written_commas fun hint hmem => ?_⟩
    cases hint with
    | js => exact written_name (isName_words "js" (by decide))
    | thread count p =>
      exact List.forall_mem_cons.mpr ⟨isName_words "thread" (by decide),
        List.forall_mem_singleton.mpr (h _ hmem)⟩

theorem written_projection {p : Projection} (h : p.Normal) : ∀ t ∈ p.print, t.Written := by
  cases p with
  | star _ => exact List.forall_mem_singleton.mpr trivial
  | item e label =>
    exact List.forall_mem_append.mpr
      ⟨e.written h, written_behind .as trivial fun label _ => written_text label⟩

mutual

theorem Select.written : (q : Select Unit) → q.Normal → ∀ t ∈ q.print, t.Written
  | ⟨_, source, _, _, _, _⟩, ⟨_, hp, hs, hf, hh, _⟩ => by
    simp only [Select.print, List.forall_mem_cons, List.forall_mem_append]
    exact ⟨trivial, written_commas fun p hmem => written_projection (hp p hmem), source.written hs,
      written_behind .where trivial fun e hmem => e.written (hf e hmem), written_hints hh⟩

theorem Source.written : (source : Source Unit) → source.Normal → ∀ t ∈ source.print, t.Written
  | .nothing, _ => nofun
  | .buffer _ _, h => List.forall_mem_cons.mpr ⟨trivial, List.forall_mem_singleton.mpr h⟩
  | .download kind url _ _, h => by
    simp only [Source.print, List.forall_mem_cons, List.forall_mem_append]
    exact ⟨trivial, trivial, isName_word kind, written_text url, written_hints h⟩
  | .downloadEach kind urls _ _, h => by
    simp only [Source.print, List.forall_mem_cons, List.forall_mem_append]
    exact ⟨trivial, trivial, isName_word kind, trivial, urls.written h.1, trivial, written_hints h.2⟩

end

theorem written_columnDecl {c : ColumnDecl} (h : c.Normal) : ∀ t ∈ c.print, t.Written := by
  refine List.forall_mem_cons.mpr ⟨h.name, List.forall_mem_cons.mpr ⟨h.typeName, ?_⟩⟩
  split
  · exact written_name (isName_words "identity" (by decide))
  · nofun

theorem written_statement {s : Statement Unit} (h : s.Normal) : ∀ t ∈ s.print, t.Written := by
  cases s with
  | createBuffer name columns _ =>
    simp only [Statement.print, List.forall_mem_cons, List.forall_mem_append]
    exact ⟨trivial, trivial, written_name h.1, trivial,
      written_commas fun c hmem => written_columnDecl (h.2.2 c hmem), trivial, nofun⟩
  | insert target columns query _ =>
    simp only [Statement.print, List.forall_mem_cons, List.forall_mem_append]
    refine ⟨trivial, trivial, written_name h.1, ?_, query.written h.2.2⟩
    cases columns with
    | none => nofun
    | some names =>
      simp only [printTargets, List.forall_mem_cons, List.forall_mem_append]
      exact ⟨trivial, written_commas fun name hmem => written_name ((h.2.1 names rfl).2 name hmem),
        trivial, nofun⟩
  | select query => exact query.written h

/-- What is printed of a program in normal form are tokens that a script can have. -/
theorem written_program {p : Program Unit} (h : p.Normal) : ∀ t ∈ p.print, t.Written := by
  intro t ht
  obtain ⟨s, hs, hmem⟩ := List.mem_flatMap.mp ht
  exact written_statement (h s hs) t hmem

end Quarry.Script
