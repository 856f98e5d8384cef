import Tabular.Report.Span
import Tabular.Table

set_option autoImplicit false

/-! # Previews

The first rows of a table in aligned columns. A column is as wide as its widest cell, and a text
that is too long is cut.
-/

namespace Tabular.Report

/-- The number of characters that a cell of a preview has at most. -/
def maxCellWidth : Nat := 24

/-- A text that fits a cell; one that is too long ends in an ellipsis. -/
def clip (text : String) : String :=
  if text.length ≤ maxCellWidth then text
  else String.ofList (text.toList.take (maxCellWidth - 1)) ++ "…"

def widest (texts : List String) : Nat := (texts.map String.length).foldl Nat.max 0

/-- The texts of a row filled up to the widths of the columns, two blanks apart. -/
def aligned (widths : List Nat) (texts : List String) : String :=
  "  ".intercalate (List.zipWith padded widths texts)

def preview (t : Table) (rows : Nat) : List Line :=
  if t.headers = [] then [[faint "(empty)"]]
  else
    let shown := t.take rows
    let widths := t.headers.map fun key =>
      widest (clip key :: shown.map fun r => clip (r.text key))
    let head : Line :=
      ["  ", { text := aligned widths (t.headers.map clip), style := { bold := true } }]
    let body : List Line := shown.map fun r =>
      ["  ", aligned widths (t.headers.map fun key => clip (r.text key))]
    let more : List Line :=
      if rows < t.length then [["  ", faint ("... " ++ toString (t.length - rows) ++ " more rows")]]
      else []
    head :: body ++ more

theorem length_clip_le (text : String) : (clip text).length ≤ maxCellWidth := by
  unfold clip
  split
  · assumption
  · calc (String.ofList (text.toList.take (maxCellWidth - 1)) ++ "…").length
        = (text.toList.take (maxCellWidth - 1)).length + 1 := by
          rw [String.length_append, String.length_ofList]; rfl
      _ ≤ maxCellWidth - 1 + 1 := Nat.add_le_add_right (List.length_take_le _ _) 1
      _ = maxCellWidth := rfl

end Tabular.Report
