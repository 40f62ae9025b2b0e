import Quarry.Table.Basic
import Quarry.Text.Blank
import Quarry.Text.Quoted

/-!
Tables drawn as a grid of text: a rule, the labels, a rule, one line for each row and a closing
rule. Columns are as wide as their widest cell, and control characters are escaped, so that a
row takes one line.
-/

namespace Quarry.Grid

def cellChar (c : Char) : List Char :=
  match c with
  | '\n' => ['\\', 'n']
  | '\r' => ['\\', 'r']
  | '\t' => ['\\', 't']
  | _ =>
    if Text.isControl c then
      let ds := Text.hexDigits c.toNat
      ['\\', 'u'] ++ List.replicate (4 - ds.length) '0' ++ ds
    else [c]

def cellText (s : String) : List Char := s.toList.flatMap cellChar

def widths (lines : List (List (List Char))) (columns : Nat) : List Nat :=
  lines.foldl (fun ws cells => List.zipWith (fun w cell => max w cell.length) ws cells)
    (List.replicate columns 0)

def rule (ws : List Nat) : List Char :=
  '+' :: ws.flatMap (fun w => List.replicate (w + 2) '-' ++ ['+']) ++ ['\n']

def padded (cell : List Char) (width : Nat) : List Char :=
  ' ' :: cell ++ List.replicate (width - cell.length + 1) ' ' ++ ['|']

def line (ws : List Nat) (cells : List (List Char)) : List Char :=
  '|' :: (List.zipWith padded cells ws).flatten ++ ['\n']

def countLine (n : Nat) : String :=
  let rows := if n = 1 then "row" else "rows"
  s!"({n} {rows})\n"

def draw (t : Table) : String :=
  let header := t.labels.map cellText
  let rows := t.rows.toList.map fun row => row.map fun v => cellText v.text
  let ws := widths (header :: rows) t.columns.length
  let body := if rows.isEmpty then [] else rows.flatMap (line ws) ++ rule ws
  String.ofList (rule ws ++ line ws header ++ rule ws ++ body)

def drawCounted (t : Table) : String := draw t ++ countLine t.rows.size

end Quarry.Grid
