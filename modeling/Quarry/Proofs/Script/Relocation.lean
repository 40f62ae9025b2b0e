import Quarry.Proofs.Script.Grammar

/-!
# Other places

The same script with its lexemes at other places. What spells something spells it there as well: no rule
of the grammar looks at a place.
-/

namespace Quarry.Script

/-! ## 1. Definitions -/

/-- The place some lines further down. -/
def Position.lower (lines : Nat) (p : Position) : Position := ⟨p.line + lines, p.column⟩

section Definitions

variable (f : Position → Position)

/-- The same token at another place. -/
def Lexeme.relocate (l : Lexeme) : Lexeme := ⟨l.token, f l.position⟩

@[simp] theorem Lexeme.relocate_token (l : Lexeme) : (l.relocate f).token = l.token := rfl

@[simp] theorem Lexeme.relocate_position (l : Lexeme) :
    (l.relocate f).position = f l.position := rfl

mutual

def Expr.relocate : Expr → Expr
  | .literal value => .literal value
  | .column name position => .column name (f position)
  | .pick pick position => .pick pick (f position)
  | .simpleCase subject branches position =>
      .simpleCase subject.relocate branches.relocate (f position)
  | .searchedCase branches position => .searchedCase branches.relocate (f position)
  | .binary op left right position => .binary op left.relocate right.relocate (f position)
  | .not operand => .not operand.relocate

def Branches.relocate : Branches → Branches
  | .done => .done
  | .otherwise result => .otherwise result.relocate
  | .branch condition result rest => .branch condition.relocate result.relocate rest.relocate

end

def Phrase.relocate : Phrase → Phrase
  | .expr level e => .expr level (e.relocate f)
  | .tail level left whole => .tail level (left.relocate f) (whole.relocate f)
  | .branches b => .branches (b.relocate f)

def Hint.relocate : Hint → Hint
  | .thread count position => .thread count (f position)
  | .js => .js

def Projection.relocate : Projection → Projection
  | .star position => .star (f position)
  | .item e label => .item (e.relocate f) label

mutual

def Select.relocate {ν : Type} : Select ν → Select ν
  | ⟨projections, source, filter, hints, position, note⟩ =>
      ⟨projections.map (Projection.relocate f), source.relocate, filter.map (Expr.relocate f),
        hints.map (Hint.relocate f), f position, note⟩

def Source.relocate {ν : Type} : Source ν → Source ν
  | .nothing => .nothing
  | .buffer name position => .buffer name (f position)
  | .download kind url hints position =>
      .download kind url (hints.map (Hint.relocate f)) (f position)
  | .downloadEach kind urls hints position =>
      .downloadEach kind urls.relocate (hints.map (Hint.relocate f)) (f position)

end

def ColumnDecl.relocate (c : ColumnDecl) : ColumnDecl := { c with position := f c.position }

def Statement.relocate {ν : Type} : Statement ν → Statement ν
  | .createBuffer name columns position =>
      .createBuffer name (columns.map (ColumnDecl.relocate f)) (f position)
  | .insert target columns query position => .insert target columns (query.relocate f) (f position)
  | .select query => .select (query.relocate f)

def Program.relocate {ν : Type} (p : Program ν) : Program ν := p.map (Statement.relocate f)

end Definitions

/-! ## 2. Spellings at other places -/

variable {f : Position → Position} {ts : List Lexeme}

section Pieces

variable {α β : Type} {item : α → List Lexeme → Prop} {item' : β → List Lexeme → Prop} {g : α → β}

theorem Optionally.relocate {keyword : Token} {o : Option α} (h : Optionally keyword item o ts)
    (hitem : ∀ {a us}, item a us → item' (g a) (us.map (Lexeme.relocate f))) :
    Optionally keyword item' (o.map g) (ts.map (Lexeme.relocate f)) := by
  cases h with
  | none => exact .none
  | some hl ha => exact .some hl (hitem ha)

theorem Listed.relocate {as : List α} (h : Listed item as ts)
    (hitem : ∀ {a us}, item a us → item' (g a) (us.map (Lexeme.relocate f))) :
    Listed item' (as.map g) (ts.map (Lexeme.relocate f)) := by
  induction h with
  | one ha => exact .one (hitem ha)
  | more ha hl _ ih =>
    rw [List.map_append]
    exact .more (hitem ha) hl ih

theorem Enclosed.relocate {a : α} (h : Enclosed item a ts)
    (hitem : ∀ {us}, item a us → item' (g a) (us.map (Lexeme.relocate f))) :
    Enclosed item' (g a) (ts.map (Lexeme.relocate f)) := by
  cases h with
  | bare ha => exact .bare (hitem ha)
  | parens hl ha hr =>
    rw [List.map_cons, List.map_append]
    exact .parens hl (hitem ha) hr

end Pieces

theorem NameSpelled.relocate {name : String} (h : NameSpelled name ts) :
    NameSpelled name (ts.map (Lexeme.relocate f)) := by
  cases h with
  | intro hl => exact .intro hl

theorem TextSpelled.relocate {text : String} (h : TextSpelled text ts) :
    TextSpelled text (ts.map (Lexeme.relocate f)) := by
  cases h with
  | intro hl => exact .intro hl

theorem LabelSpelled.relocate {label : String} (h : LabelSpelled label ts) :
    LabelSpelled label (ts.map (Lexeme.relocate f)) := by
  cases h with
  | name hl => exact .name hl
  | text hl => exact .text hl

theorem CountSpelled.relocate {count : Int64} (h : CountSpelled count ts) :
    CountSpelled count (ts.map (Lexeme.relocate f)) := by
  cases h with
  | intro hl => exact .intro hl

theorem Take.Spelled.relocate {t : Take} (h : t.Spelled ts) :
    t.Spelled (ts.map (Lexeme.relocate f)) := by
  cases h with
  | text hl => exact .text hl
  | html hl => exact .html hl
  | «attribute» hl hname => exact .attribute hl hname.relocate

theorem Pick.Spelled.relocate {p : Pick} (h : p.Spelled ts) :
    p.Spelled (ts.map (Lexeme.relocate f)) := by
  cases h with
  | intro hselector htake hpattern hreplace hmatch =>
    simp only [List.map_append]
    have htake := htake.relocate (f := f) (g := id) Take.Spelled.relocate
    have hpattern := hpattern.relocate (f := f) (g := id) TextSpelled.relocate
    have hreplace := hreplace.relocate (f := f) (g := id) TextSpelled.relocate
    rw [Option.map_id] at htake hpattern hreplace
    exact .intro hselector.relocate htake hpattern hreplace hmatch

theorem Branches.hasCondition_relocate (b : Branches) :
    (b.relocate f).hasCondition = b.hasCondition := by
  cases b <;> rfl

theorem relocate_negate (p : Position) (e : Expr) :
    (Parser.negate p e).relocate f = Parser.negate (f p) (e.relocate f) := by
  cases e with
  | literal v => cases v <;> rfl
  | _ => rfl

theorem Phrase.Spelled.relocate {p : Phrase} (h : p.Spelled ts) :
    (p.relocate f).Spelled (ts.map (Lexeme.relocate f)) := by
  induction h with
  | literal hl => exact .literal hl
  | column hl => exact .column (l := .relocate f _) hl
  | pick hl hp => exact .pick (l := .relocate f _) hl hp.relocate
  | @simpleCase _ _ b _ _ hl _ _ hcondition ihsubject ihb =>
    rw [List.map_cons, List.map_append]
    exact .simpleCase (l := .relocate f _) hl ihsubject ihb (b.hasCondition_relocate.trans hcondition)
  | @searchedCase _ b _ hl _ hcondition ih =>
    exact .searchedCase (l := .relocate f _) hl ih (b.hasCondition_relocate.trans hcondition)
  | parens hl _ hr ih =>
    rw [List.map_cons, List.map_append]
    exact .parens hl ih hr
  | @minus l e ts hl _ ih =>
    show (Phrase.expr .primary ((Parser.negate l.position e).relocate f)).Spelled _
    rw [relocate_negate]
    exact .minus (l := l.relocate f) hl ih
  | loose hlevel _ ih => exact .loose hlevel ih
  | not hl _ ih => exact .not hl ih
  | comparison _ hop _ ihleft ihright =>
    rw [List.map_append]
    exact .comparison (l := .relocate f _) ihleft hop ihright
  | chain hlevel _ _ ihfirst ihtail =>
    rw [List.map_append]
    exact .chain hlevel ihfirst ihtail
  | stop => exact .stop
  | step hop _ _ ihright ihtail =>
    rw [List.map_cons, List.map_append]
    exact .step (l := .relocate f _) hop ihright ihtail
  | done hl => exact .done hl
  | otherwise hl _ hr ih =>
    rw [List.map_cons, List.map_append]
    exact .otherwise hl ih hr
  | branch hl _ hm _ _ ihcondition ihresult ihb =>
    simp only [List.map_cons, List.map_append]
    exact .branch hl ihcondition hm ihresult ihb

theorem Expr.Spelled.relocate {e : Expr} (h : e.Spelled ts) :
    (e.relocate f).Spelled (ts.map (Lexeme.relocate f)) :=
  Phrase.Spelled.relocate h

theorem Hint.Spelled.relocate {hint : Hint} (h : hint.Spelled ts) :
    (hint.relocate f).Spelled (ts.map (Lexeme.relocate f)) := by
  cases h with
  | js hl => exact .js hl
  | thread hl hcount =>
    exact .thread (l := .relocate f _) hl (hcount.relocate (g := id) CountSpelled.relocate)

theorem HintsSpelled.relocate {hints : List Hint} (h : HintsSpelled hints ts) :
    HintsSpelled (hints.map (Hint.relocate f)) (ts.map (Lexeme.relocate f)) := by
  induction h with
  | none => exact .none
  | clause hl hhints _ ih =>
    rw [List.map_append, List.map_cons, List.map_append]
    exact .clause hl (hhints.relocate fun h => h.relocate Hint.Spelled.relocate) ih

theorem Projection.Spelled.relocate {p : Projection} (h : p.Spelled ts) :
    (p.relocate f).Spelled (ts.map (Lexeme.relocate f)) := by
  cases h with
  | star hl => exact .star (l := .relocate f _) hl
  | item he hlabel =>
    have hlabel := hlabel.relocate (f := f) (g := id) LabelSpelled.relocate
    rw [Option.map_id] at hlabel
    rw [List.map_append]
    exact .item he.relocate hlabel

theorem Source.isDownload_relocate {ν : Type} (src : Source ν) :
    (src.relocate f).isDownload = src.isDownload := by
  cases src <;> rfl

mutual

theorem Select.Spelled.relocate {q : Select Unit} {ts : List Lexeme} :
    q.Spelled ts → (q.relocate f).Spelled (ts.map (Lexeme.relocate f))
  | .intro hl hprojections hsource hfilter hhints hfollow => by
    simp only [List.map_cons, List.map_append]
    refine .intro (l := .relocate f _) hl (hprojections.relocate Projection.Spelled.relocate)
      hsource.relocate (hfilter.relocate Expr.Spelled.relocate) hhints.relocate
      fun hdownload hnone => ?_
    rw [Source.isDownload_relocate] at hdownload
    rw [hfollow hdownload (Option.map_eq_none_iff.mp hnone)]
    rfl

theorem Source.Spelled.relocate {src : Source Unit} {ts : List Lexeme} :
    src.Spelled ts → (src.relocate f).Spelled (ts.map (Lexeme.relocate f))
  | .nothing => .nothing
  | .buffer hf hl => .buffer (f := .relocate f _) (l := .relocate f _) hf hl
  | .download hf hl hk hurl hhints => by
    simp only [List.map_cons, List.map_append]
    exact .download (f := .relocate f _) (l := .relocate f _) hf hl hk hurl.relocate hhints.relocate
  | .downloadEach hf hl hk hp hurls hr hhints => by
    simp only [List.map_cons, List.map_append]
    exact .downloadEach (f := .relocate f _) (l := .relocate f _) hf hl hk hp hurls.relocate hr
      hhints.relocate

end

theorem ColumnDecl.Spelled.relocate {c : ColumnDecl} (h : c.Spelled ts) :
    (c.relocate f).Spelled (ts.map (Lexeme.relocate f)) := by
  cases h with
  | plain hl ht => exact .plain (l := .relocate f _) hl ht
  | identity hl ht hw => exact .identity (l := .relocate f _) hl ht hw

theorem TargetsSpelled.relocate {columns : Option (List String)} (h : TargetsSpelled columns ts) :
    TargetsSpelled columns (ts.map (Lexeme.relocate f)) := by
  cases h with
  | none => exact .none
  | some hl hnames hr =>
    have hnames := hnames.relocate (f := f) (g := id) NameSpelled.relocate
    rw [List.map_id] at hnames
    rw [List.map_cons, List.map_append]
    exact .some hl hnames hr

theorem Statement.Spelled.relocate {st : Statement Unit} (h : st.Spelled ts) :
    (st.relocate f).Spelled (ts.map (Lexeme.relocate f)) := by
  cases h with
  | createBuffer hl hb hname hp hcolumns hr =>
    simp only [List.map_cons, List.map_append]
    exact .createBuffer (l := .relocate f _) hl hb hname.relocate hp
      (hcolumns.relocate ColumnDecl.Spelled.relocate) hr
  | insert hl hi htarget hcolumns hselect =>
    simp only [List.map_cons, List.map_append]
    exact .insert (l := .relocate f _) hl hi htarget.relocate hcolumns.relocate hselect.relocate
  | select hselect => exact .select hselect.relocate

/-- A program may stand anywhere. -/
theorem Program.Spelled.relocate {p : Program Unit} (h : Program.Spelled p ts) :
    Program.Spelled (Program.relocate f p) (ts.map (Lexeme.relocate f)) := by
  induction h with
  | nil => exact .nil
  | semicolon hl _ ih => exact .semicolon hl ih
  | statement hs _ ih =>
    rw [List.map_append]
    exact .statement hs.relocate ih

end Quarry.Script
