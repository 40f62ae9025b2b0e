import Mathlib.Algebra.BigOperators.Group.List.Basic
import Mathlib.Algebra.GroupWithZero.Nat
import Mathlib.Data.List.Forall2
import Quarry.Proofs.Value.Texts
import Quarry.Table.Grid

/-!
# Grids

The grid of a table is a rectangle. Whatever its texts hold, it has one line for each row beside the lines
around them, all lines are equally long, and each text stands at the left of a column that is as wide as its
widest text. A text is drawn as it is, but for control characters, which are escaped.
-/

namespace Quarry.Grid

/-! ## 1. Definitions -/

/-- What a character is drawn as. A control character is escaped by a letter, or else by its code point in
four digits, and any other one stands for itself. -/
inductive ShowsChar : Char → List Char → Prop where
  | newline : ShowsChar '\n' ['\\', 'n']
  | carriageReturn : ShowsChar '\r' ['\\', 'r']
  | tab : ShowsChar '\t' ['\\', 't']
  | control {c : Char} {high low : Nat} (hcontrol : c.toNat < 0x20 ∨ 0x7f ≤ c.toNat ∧ c.toNat < 0xa0)
      (hother : c ∉ ['\n', '\r', '\t']) (hlow : low < 16) (hcode : c.toNat = 16 * high + low) :
      ShowsChar c ['\\', 'u', '0', '0', high.digitChar, low.digitChar]
  | plain {c : Char} (hplain : 0x20 ≤ c.toNat ∧ c.toNat < 0x7f ∨ 0xa0 ≤ c.toNat) : ShowsChar c [c]

/-- What a text is drawn as, one character after the other. -/
inductive Shows : List Char → List Char → Prop where
  | nil : Shows [] []
  | cons {c : Char} {cs shown text : List Char} (hc : ShowsChar c shown) (hcs : Shows cs text) :
      Shows (c :: cs) (shown ++ text)

/-- The labels of a table as they are drawn. -/
def labelTexts (t : Table) : List (List Char) := t.labels.map cellText

/-- The cells of a row as they are drawn. -/
def rowTexts (row : List Value) : List (List Char) := row.map fun v => cellText v.text

/-- The texts that some lines have in a column. -/
def textsIn (lines : List (List (List Char))) (column : Nat) : List (List Char) :=
  lines.filterMap fun texts => texts[column]?

/-- The texts that are drawn in a column: its label, and its cells from the top. -/
def columnTexts (t : Table) (column : Nat) : List (List Char) :=
  textsIn (labelTexts t :: t.rows.toList.map rowTexts) column

/-- The width of the widest of some texts. -/
structure IsWidest (width : Nat) (texts : List (List Char)) : Prop where
  le : ∀ text ∈ texts, text.length ≤ width
  attained : ∃ text ∈ texts, text.length = width

/-- A line of texts between bars, each at the left of its width and with a blank on both sides. -/
inductive Aligned : List (List Char) → List Nat → List Char → Prop where
  | nil : Aligned [] [] ['|']
  | cons {text line : List Char} {texts : List (List Char)} {ws : List Nat} {pad width : Nat}
      (hwidth : text.length + pad = width) (hline : Aligned texts ws line) :
      Aligned (text :: texts) (width :: ws)
        ('|' :: ' ' :: (text ++ List.replicate pad ' ' ++ ' ' :: line))

/-- A line of dashes, with a cross where the other lines have a bar. -/
inductive IsRule : List Nat → List Char → Prop where
  | nil : IsRule [] ['+']
  | cons {line : List Char} {ws : List Nat} {width : Nat} (hline : IsRule ws line) :
      IsRule (width :: ws) ('+' :: (List.replicate (width + 2) '-' ++ line))

/-- Lines in writing: a line break ends each of them. -/
def written (lines : List (List Char)) : List Char := lines.flatMap fun line => line ++ ['\n']

/-- The line below a grid. -/
def footer (rows : Nat) : List Char :=
  '(' :: (Nat.toDigits 10 rows ++ if rows = 1 then " row)".toList else " rows)".toList)

/-- The grid of a table consists of lines over columns of the given widths. -/
structure Draws (t : Table) (ws : List Nat) (lines : List (List Char)) : Prop where
  columns : ws.length = t.columns.length
  /-- Each label is drawn character by character, and so is what each cell is written as. -/
  labelled : List.Forall₂ (fun c text => Shows c.label.toList text) t.columns (labelTexts t)
  celled : ∀ row ∈ t.rows,
    List.Forall₂ (fun v text => ∃ cs, v.Prints cs ∧ Shows cs text) row (rowTexts row)
  widest : ∀ j width, ws[j]? = some width → IsWidest width (columnTexts t j)
  plain : (draw t).toList = written lines
  counted : (drawCounted t).toList = written (lines ++ [footer t.rows.size])
  /-- The breaks between lines are the only ones. -/
  unbroken : ∀ line ∈ lines ++ [footer t.rows.size], '\n' ∉ line
  count : lines.length = 3 + t.rows.size + if t.rows.size = 0 then 0 else 1
  length : ∀ line ∈ lines, line.length = 1 + (ws.map (· + 3)).sum
  /-- Rules stand around the labels and below the last row. -/
  rules : ∀ i ∈ [0, 2, 3 + t.rows.size], ∀ line, lines[i]? = some line → IsRule ws line
  labels : ∃ line, lines[1]? = some line ∧ Aligned (labelTexts t) ws line
  rows : ∀ k row, t.rows[k]? = some row →
    ∃ line, lines[3 + k]? = some line ∧ Aligned (rowTexts row) ws line

/-! ## 2. Texts -/

-- Two digits are enough for the code point of a control character.
theorem cellChar_ofNat : ∀ n < 0xa0, Text.isControl (Char.ofNat n) →
    Char.ofNat n ∉ ['\n', '\r', '\t'] →
      cellChar (Char.ofNat n) = ['\\', 'u', '0', '0', (n / 16).digitChar, (n % 16).digitChar] := by
  decide +kernel

theorem cellChar_of_not_isControl {c : Char} (h : Text.isControl c = false) : cellChar c = [c] := by
  unfold cellChar
  split
  case h_4 => rw [h, if_neg Bool.false_ne_true]
  all_goals cases h

theorem shows_cellChar (c : Char) : ShowsChar c (cellChar c) := by
  by_cases hcontrol : Text.isControl c
  · have hrange : c.toNat < 0x20 ∨ 0x7f ≤ c.toNat ∧ c.toNat < 0xa0 := by
      simp only [Text.isControl, Bool.or_eq_true, Bool.and_eq_true, decide_eq_true_eq] at hcontrol
      omega
    by_cases hother : c ∈ ['\n', '\r', '\t']
    · simp only [List.mem_cons, List.not_mem_nil, or_false] at hother
      rcases hother with rfl | rfl | rfl
      · exact .newline
      · exact .carriageReturn
      · exact .tab
    · have hcell := cellChar_ofNat c.toNat (by omega)
      rw [Char.ofNat_toNat] at hcell
      rw [hcell hcontrol hother]
      exact .control hrange hother (Nat.mod_lt _ (by decide)) (Nat.div_add_mod _ _).symm
  · rw [Bool.not_eq_true] at hcontrol
    rw [cellChar_of_not_isControl hcontrol]
    simp only [Text.isControl, Bool.or_eq_false_iff, Bool.and_eq_false_iff,
      decide_eq_false_iff_not] at hcontrol
    exact .plain (by omega)

/-- A text is drawn with its control characters escaped. -/
theorem shows_cellText (s : String) : Shows s.toList (cellText s) := by
  unfold cellText
  induction s.toList with
  | nil => exact .nil
  | cons c cs ih => exact .cons (shows_cellChar c) ih

theorem ShowsChar.newline_notMem {c : Char} {shown : List Char} (h : ShowsChar c shown) :
    '\n' ∉ shown := by
  cases h with
  | newline | carriageReturn | tab => decide
  | @control _ high low hcontrol _ hlow hcode =>
    have hdigit : ∀ n < 16, '\n' ≠ n.digitChar := by decide
    simp [hdigit high (by omega), hdigit low hlow]
  | plain hplain =>
    rw [List.mem_singleton]
    rintro rfl
    revert hplain
    decide

theorem Shows.newline_notMem {cs text : List Char} (h : Shows cs text) : '\n' ∉ text := by
  induction h with
  | nil => exact List.not_mem_nil
  | cons hc _ ih => exact fun hmem => (List.mem_append.mp hmem).elim hc.newline_notMem ih

/-- No drawn text has a line break. -/
theorem newline_notMem_cellText (s : String) : '\n' ∉ cellText s := (shows_cellText s).newline_notMem

theorem labels_shown (t : Table) :
    List.Forall₂ (fun c text => Shows c.label.toList text) t.columns (labelTexts t) := by
  rw [labelTexts, Table.labels, List.map_map, List.forall₂_map_right_iff, List.forall₂_same]
  exact fun c _ => shows_cellText c.label

theorem cells_shown (row : List Value) :
    List.Forall₂ (fun v text => ∃ cs, v.Prints cs ∧ Shows cs text) row (rowTexts row) := by
  rw [rowTexts, List.forall₂_map_right_iff, List.forall₂_same]
  exact fun v _ => ⟨_, v.prints_text, shows_cellText v.text⟩

theorem newline_notMem_footer (rows : Nat) : '\n' ∉ footer rows := by
  have hdigits : '\n' ∉ Nat.toDigits 10 rows := by
    intro h
    have hdigit := Nat.isDigit_of_mem_toDigits (by decide) (by decide) h
    contradiction
  have hend : '\n' ∉ (if rows = 1 then " row)".toList else " rows)".toList) := by
    split <;> decide
  simp only [footer, List.mem_cons, List.mem_append, hdigits, hend, or_self, or_false]
  decide

theorem countLine_toList (rows : Nat) : (countLine rows).toList = footer rows ++ ['\n'] := by
  unfold countLine footer
  split <;> simp [toString]

/-! ## 3. Widths -/

/-- The widths of columns that hold one more line of texts. -/
def widen (ws : List Nat) (cells : List (List Char)) : List Nat :=
  List.zipWith (fun w cell => max w cell.length) ws cells

theorem length_widen {ws : List Nat} {cells : List (List Char)} (h : cells.length = ws.length) :
    (widen ws cells).length = ws.length := by
  rw [widen, List.length_zipWith, h, Nat.min_self]

theorem length_foldl_widen {ws : List Nat} {lines : List (List (List Char))}
    (h : ∀ cells ∈ lines, cells.length = ws.length) : (lines.foldl widen ws).length = ws.length := by
  induction lines generalizing ws with
  | nil => rfl
  | cons cells lines ih =>
    have hcells := length_widen (h cells List.mem_cons_self)
    rw [List.foldl_cons, ih fun cells' h' => (h cells' (List.mem_cons_of_mem _ h')).trans hcells.symm,
      hcells]

theorem textsIn_cons {cells : List (List Char)} {j : Nat} {text : List Char}
    (h : cells[j]? = some text) (lines : List (List (List Char))) :
    textsIn (cells :: lines) j = text :: textsIn lines j :=
  List.filterMap_cons_some h

/-- The width of a column grows with its texts: in the end it is the first one or that of some text, and no
text is wider. -/
theorem getElem?_foldl_widen {ws : List Nat} {lines : List (List (List Char))}
    (h : ∀ cells ∈ lines, cells.length = ws.length) {j w : Nat} (hw : ws[j]? = some w) :
    ∃ width, (lines.foldl widen ws)[j]? = some width ∧ w ≤ width ∧
      (∀ text ∈ textsIn lines j, text.length ≤ width) ∧
      (width = w ∨ ∃ text ∈ textsIn lines j, text.length = width) := by
  induction lines generalizing ws w with
  | nil => exact ⟨w, hw, Nat.le_refl w, by simp [textsIn], .inl rfl⟩
  | cons cells lines ih =>
    have hcells := h cells List.mem_cons_self
    have hj : j < cells.length := by
      have hlt := (List.getElem?_eq_some_iff.mp hw).1
      omega
    have htext : cells[j]? = some cells[j] := List.getElem?_eq_getElem hj
    have hwiden : (widen ws cells)[j]? = some (max w cells[j].length) := by
      rw [widen, List.getElem?_zipWith, hw, htext]
    have hrest : ∀ cells' ∈ lines, cells'.length = (widen ws cells).length := fun cells' h' =>
      (h cells' (List.mem_cons_of_mem _ h')).trans (length_widen hcells).symm
    have ⟨width, hwidth, hle, hall, hsome⟩ := ih hrest hwiden
    have hmax := Nat.max_le.mp hle
    refine ⟨width, hwidth, hmax.1, ?_, ?_⟩
    · intro text hmem
      rw [textsIn_cons htext, List.mem_cons] at hmem
      rcases hmem with rfl | hmem
      · exact hmax.2
      · exact hall text hmem
    · rw [textsIn_cons htext]
      rcases hsome with heq | ⟨text, hmem, hlength⟩
      · -- Nothing further down is wider, so that the column is as wide as before or as this text.
        rcases Nat.le_total w cells[j].length with hcase | hcase
        · exact .inr ⟨cells[j], List.mem_cons_self, by rw [heq, Nat.max_eq_right hcase]⟩
        · exact .inl (by rw [heq, Nat.max_eq_left hcase])
      · exact .inr ⟨text, List.mem_cons_of_mem _ hmem, hlength⟩

theorem length_labelTexts (t : Table) : (labelTexts t).length = t.columns.length := by
  simp [labelTexts, Table.labels]

theorem length_rowTexts {t : Table} {row : List Value} (h : row ∈ t.rows) :
    (rowTexts row).length = t.columns.length := by
  rw [rowTexts, List.length_map, t.width_eq row h]

/-- The widths of the columns of a table. -/
def columnWidths (t : Table) : List Nat :=
  widths (labelTexts t :: t.rows.toList.map rowTexts) t.columns.length

-- Labels and rows have a text for each column.
theorem length_of_mem_lines {t : Table} {cells : List (List Char)}
    (h : cells ∈ labelTexts t :: t.rows.toList.map rowTexts) :
    cells.length = (List.replicate t.columns.length 0).length := by
  rw [List.length_replicate]
  rcases List.mem_cons.mp h with rfl | h
  · exact length_labelTexts t
  · have ⟨row, hrow, heq⟩ := List.mem_map.mp h
    rw [← heq, length_rowTexts (Array.mem_toList_iff.mp hrow)]

theorem length_columnWidths (t : Table) : (columnWidths t).length = t.columns.length := by
  have h := length_foldl_widen (@length_of_mem_lines t)
  rw [List.length_replicate] at h
  exact h

theorem isWidest_columnWidths {t : Table} {j width : Nat} (h : (columnWidths t)[j]? = some width) :
    IsWidest width (columnTexts t j) := by
  have hj : j < t.columns.length := by
    have hlt := (List.getElem?_eq_some_iff.mp h).1
    rw [length_columnWidths] at hlt
    exact hlt
  have hzero : (List.replicate t.columns.length 0)[j]? = some 0 := by simp [hj]
  have ⟨width', hwidth, _, hall, hsome⟩ :=
    getElem?_foldl_widen (@length_of_mem_lines t) hzero
  have heq : width' = width := Option.some_inj.mp (hwidth.symm.trans h)
  rw [heq] at hall hsome
  refine ⟨hall, ?_⟩
  rcases hsome with hwidth | hsome
  · -- Without a width the column still has its label.
    have ⟨label, hlabel⟩ : ∃ label, (labelTexts t)[j]? = some label :=
      ⟨_, List.getElem?_eq_getElem (length_labelTexts t ▸ hj)⟩
    have hmem : label ∈ columnTexts t j := by
      rw [columnTexts, textsIn_cons hlabel]
      exact List.mem_cons_self
    have hle := hall _ hmem
    exact ⟨_, hmem, by omega⟩
  · exact hsome

/-! ## 4. Lines -/

/-- A rule without its line break. -/
def ruleText (ws : List Nat) : List Char :=
  '+' :: ws.flatMap fun w => List.replicate (w + 2) '-' ++ ['+']

/-- A line of texts without its line break. -/
def lineText (ws : List Nat) (texts : List (List Char)) : List Char :=
  '|' :: (List.zipWith padded texts ws).flatten

theorem isRule_ruleText (ws : List Nat) : IsRule ws (ruleText ws) := by
  induction ws with
  | nil => exact .nil
  | cons w ws ih =>
    have hcons : ruleText (w :: ws) = '+' :: (List.replicate (w + 2) '-' ++ ruleText ws) := by
      simp [ruleText]
    rw [hcons]
    exact .cons ih

/-- Texts that are not wider than their columns are drawn at the left of them. -/
theorem aligned_lineText {texts : List (List Char)} {ws : List Nat}
    (h : List.Forall₂ (fun text w => text.length ≤ w) texts ws) :
    Aligned texts ws (lineText ws texts) := by
  induction h with
  | nil => exact .nil
  | @cons text w texts ws hle _ ih =>
    have hcons : lineText (w :: ws) (text :: texts) =
        '|' :: ' ' :: (text ++ List.replicate (w - text.length) ' ' ++ ' ' :: lineText ws texts) := by
      simp [lineText, padded, List.replicate_succ']
    rw [hcons]
    exact .cons (Nat.add_sub_cancel' hle) ih

theorem IsRule.length_eq {ws : List Nat} {line : List Char} (h : IsRule ws line) :
    line.length = 1 + (ws.map (· + 3)).sum := by
  induction h with
  | nil => rfl
  | cons _ ih =>
    simp only [List.length_cons, List.length_append, List.length_replicate, List.map_cons,
      List.sum_cons, ih]
    omega

theorem Aligned.length_eq {texts : List (List Char)} {ws : List Nat} {line : List Char}
    (h : Aligned texts ws line) : line.length = 1 + (ws.map (· + 3)).sum := by
  induction h with
  | nil => rfl
  | cons hwidth _ ih =>
    simp only [List.length_cons, List.length_append, List.length_replicate, List.map_cons,
      List.sum_cons, ih]
    omega

theorem IsRule.newline_notMem {ws : List Nat} {line : List Char} (h : IsRule ws line) :
    '\n' ∉ line := by
  induction h with
  | nil => decide
  | cons _ ih => simp [ih]

theorem Aligned.newline_notMem {texts : List (List Char)} {ws : List Nat} {line : List Char}
    (h : Aligned texts ws line) (htexts : ∀ text ∈ texts, '\n' ∉ text) : '\n' ∉ line := by
  induction h with
  | nil => decide
  | cons _ _ ih =>
    rw [List.forall_mem_cons] at htexts
    simp [htexts.1, ih htexts.2]

/-! ## 5. Grids -/

/-- The rows of a grid and the rule below them, if there are rows. -/
def bodyLines (ws : List Nat) (rows : List (List (List Char))) : List (List Char) :=
  if rows.isEmpty then [] else rows.map (lineText ws) ++ [ruleText ws]

/-- The lines of a grid from the top. -/
def gridLines (t : Table) : List (List Char) :=
  let ws := columnWidths t
  ruleText ws :: lineText ws (labelTexts t) :: ruleText ws ::
    bodyLines ws (t.rows.toList.map rowTexts)

theorem written_append (lines lines' : List (List Char)) :
    written (lines ++ lines') = written lines ++ written lines' := List.flatMap_append

theorem written_bodyLines (ws : List Nat) (rows : List (List (List Char))) :
    written (bodyLines ws rows) = if rows.isEmpty then [] else rows.flatMap (line ws) ++ rule ws := by
  unfold bodyLines
  split
  · rfl
  · rw [written_append, written, List.flatMap_map]
    show _ ++ (ruleText ws ++ ['\n'] ++ []) = _
    rw [List.append_nil]
    rfl

theorem draw_toList (t : Table) : (draw t).toList = written (gridLines t) := by
  have hbody := written_bodyLines (columnWidths t) (t.rows.toList.map rowTexts)
  have htop (first second third : List Char) (rest : List (List Char)) :
      written (first :: second :: third :: rest) =
        first ++ ['\n'] ++ (second ++ ['\n']) ++ (third ++ ['\n']) ++ written rest := by
    simp [written]
  unfold draw
  rw [String.toList_ofList, gridLines, htop, hbody]
  rfl

theorem drawCounted_toList (t : Table) :
    (drawCounted t).toList = written (gridLines t ++ [footer t.rows.size]) := by
  have hfooter : written [footer t.rows.size] = footer t.rows.size ++ ['\n'] := List.append_nil _
  rw [drawCounted, String.toList_append, draw_toList, countLine_toList, written_append, hfooter]

theorem length_bodyLines (ws : List Nat) (rows : List (List (List Char))) :
    (bodyLines ws rows).length = rows.length + if rows.length = 0 then 0 else 1 := by
  cases rows <;> simp [bodyLines]

-- Each text of a table fits its column.
theorem forall₂_columnWidths {t : Table} {texts : List (List Char)}
    (h : texts ∈ labelTexts t :: t.rows.toList.map rowTexts) :
    List.Forall₂ (fun text w => text.length ≤ w) texts (columnWidths t) := by
  have hlength : texts.length = (columnWidths t).length := by
    have htexts := length_of_mem_lines h
    rw [List.length_replicate] at htexts
    rw [htexts, length_columnWidths]
  rw [List.forall₂_iff_get]
  refine ⟨hlength, fun j hj hj' => ?_⟩
  apply (isWidest_columnWidths (List.getElem?_eq_getElem hj')).le
  exact List.mem_filterMap.mpr ⟨texts, h, List.getElem?_eq_getElem hj⟩

theorem aligned_labels (t : Table) :
    Aligned (labelTexts t) (columnWidths t) (lineText (columnWidths t) (labelTexts t)) :=
  aligned_lineText (forall₂_columnWidths List.mem_cons_self)

theorem aligned_row {t : Table} {row : List Value} (h : row ∈ t.rows.toList) :
    Aligned (rowTexts row) (columnWidths t) (lineText (columnWidths t) (rowTexts row)) :=
  aligned_lineText (forall₂_columnWidths (List.mem_cons_of_mem _ (List.mem_map_of_mem h)))

/-- Each line of a grid is a rule or holds the texts of the labels or of a row. -/
theorem mem_gridLines {t : Table} {line : List Char} (h : line ∈ gridLines t) :
    IsRule (columnWidths t) line ∨ ∃ texts, Aligned texts (columnWidths t) line ∧
      ∀ text ∈ texts, '\n' ∉ text := by
  have hrule := isRule_ruleText (columnWidths t)
  have hlabels : ∀ text ∈ labelTexts t, '\n' ∉ text := by
    intro text htext
    have ⟨label, _, heq⟩ := List.mem_map.mp htext
    exact heq ▸ newline_notMem_cellText label
  have hcells (row : List Value) : ∀ text ∈ rowTexts row, '\n' ∉ text := by
    intro text htext
    have ⟨v, _, heq⟩ := List.mem_map.mp htext
    exact heq ▸ newline_notMem_cellText v.text
  simp only [gridLines, bodyLines, List.mem_cons] at h
  rcases h with rfl | rfl | rfl | h
  · exact .inl hrule
  · exact .inr ⟨_, aligned_labels t, hlabels⟩
  · exact .inl hrule
  · split at h
    · cases h
    · rw [List.mem_append, List.mem_singleton, List.map_map, List.mem_map] at h
      rcases h with ⟨row, hrow, rfl⟩ | rfl
      · exact .inr ⟨_, aligned_row hrow, hcells row⟩
      · exact .inl hrule

theorem getElem?_bodyLines_of_row {ws : List Nat} {rows : List (List (List Char))} {k : Nat}
    {texts : List (List Char)} (h : rows[k]? = some texts) :
    (bodyLines ws rows)[k]? = some (lineText ws texts) := by
  have hk := (List.getElem?_eq_some_iff.mp h).1
  have hne : ¬rows.isEmpty := by
    rw [List.isEmpty_iff]
    rintro rfl
    cases h
  rw [bodyLines, if_neg hne, List.getElem?_append_left (by rw [List.length_map]; exact hk),
    List.getElem?_map, h]
  rfl

theorem getElem?_bodyLines_last {ws : List Nat} {rows : List (List (List Char))} {line : List Char}
    (h : (bodyLines ws rows)[rows.length]? = some line) : line = ruleText ws := by
  unfold bodyLines at h
  split at h
  · cases h
  · rw [List.getElem?_append_right (by simp)] at h
    simpa using h.symm

theorem length_gridLines (t : Table) :
    (gridLines t).length = 3 + t.rows.size + if t.rows.size = 0 then 0 else 1 := by
  have hsize : (t.rows.toList.map rowTexts).length = t.rows.size := by simp
  have hbody := length_bodyLines (columnWidths t) (t.rows.toList.map rowTexts)
  rw [hsize] at hbody
  simp only [gridLines, List.length_cons, hbody]
  omega

theorem newline_notMem_gridLines {t : Table} {line : List Char} (h : line ∈ gridLines t) :
    '\n' ∉ line := by
  rcases mem_gridLines h with hrule | ⟨texts, haligned, htexts⟩
  · exact hrule.newline_notMem
  · exact haligned.newline_notMem htexts

theorem length_of_mem_gridLines {t : Table} {line : List Char} (h : line ∈ gridLines t) :
    line.length = 1 + ((columnWidths t).map (· + 3)).sum := by
  rcases mem_gridLines h with hrule | ⟨texts, haligned, _⟩
  · exact hrule.length_eq
  · exact haligned.length_eq

-- The rows follow the third line, and the last rule follows them.
theorem getElem?_gridLines_row {t : Table} {k : Nat} {row : List Value} (h : t.rows[k]? = some row) :
    (gridLines t)[3 + k]? = some (lineText (columnWidths t) (rowTexts row)) := by
  have htexts : (t.rows.toList.map rowTexts)[k]? = some (rowTexts row) := by
    rw [List.getElem?_map, Array.getElem?_toList, h]
    rfl
  rw [Nat.add_comm]
  exact getElem?_bodyLines_of_row htexts

theorem getElem?_gridLines_last {t : Table} {line : List Char}
    (h : (gridLines t)[3 + t.rows.size]? = some line) : line = ruleText (columnWidths t) := by
  have hsize : t.rows.size = (t.rows.toList.map rowTexts).length := by simp
  rw [hsize, Nat.add_comm] at h
  exact getElem?_bodyLines_last h

/-- The grid of any table is a rectangle with a line for each row. -/
theorem draw_rectangular (t : Table) : ∃ ws lines, Draws t ws lines := by
  have hrule := isRule_ruleText (columnWidths t)
  refine ⟨columnWidths t, gridLines t, ?_⟩
  exact {
    columns := length_columnWidths t
    labelled := labels_shown t
    celled := fun row _ => cells_shown row
    widest := fun _ _ h => isWidest_columnWidths h
    plain := draw_toList t
    counted := drawCounted_toList t
    unbroken := by
      intro line hline
      rcases List.mem_append.mp hline with hline | hline
      · exact newline_notMem_gridLines hline
      · rw [List.mem_singleton.mp hline]
        exact newline_notMem_footer t.rows.size
    count := length_gridLines t
    length := fun _ hline => length_of_mem_gridLines hline
    rules := by
      intro i hi line hline
      simp only [List.mem_cons, List.not_mem_nil, or_false] at hi
      rcases hi with rfl | rfl | rfl
      · cases hline
        exact hrule
      · cases hline
        exact hrule
      · rw [getElem?_gridLines_last hline]
        exact hrule
    labels := ⟨_, rfl, aligned_labels t⟩
    rows := by
      intro k row hrow
      have hmem : row ∈ t.rows.toList := Array.mem_toList_iff.mpr (Array.mem_of_getElem? hrow)
      exact ⟨_, getElem?_gridLines_row hrow, aligned_row hmem⟩ }

end Quarry.Grid
