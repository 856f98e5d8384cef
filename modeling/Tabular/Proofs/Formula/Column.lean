import Mathlib.Data.List.Basic
import Tabular.Formula
import Tabular.Proofs.Table.Keys

set_option autoImplicit false

/-! # The column of a formula

A formula is computed row by row: the new row is the old one with one cell put into it, which is the
value of the formula on the old row (`Formula.Computed`). Of all functions and tests only the one
that joins the texts of columns can have no value, and only if it has no columns to join; so either
no row has a value or all rows have one (`Formula.evaluate_eq_error_iff`).
-/

namespace Tabular

/-- The only function without a value is the one that joins no columns. -/
theorem TextFormula.evaluate_eq_error_iff {f : TextFormula} {r : Record} {fault : FormulaFault} :
    f.evaluate r = .error fault ↔ f.function = .concat ∧ f.columns = [] := by
  obtain ⟨function, column, columns, argument⟩ := f
  cases function with
  | concat =>
      -- There is one fault only, so it is the given one.
      cases fault
      by_cases hc : columns = []
      · simp [evaluate, hc]
      · simp [evaluate, hc]
  | trim | upper | lower | len | left | right => simp [evaluate]

namespace Formula

/-- The formula joins the texts of no columns. -/
def JoinsNothing : Formula → Prop
  | .text f => f.function = .concat ∧ f.columns = []
  | .numeric _ => False
  | .logic _ => False

instance : DecidablePred JoinsNothing
  | .text f => inferInstanceAs (Decidable (f.function = .concat ∧ f.columns = []))
  | .numeric _ => inferInstanceAs (Decidable False)
  | .logic _ => inferInstanceAs (Decidable False)

theorem evaluate_eq_error_iff {f : Formula} {r : Record} {fault : FormulaFault} :
    f.evaluate r = .error fault ↔ f.JoinsNothing := by
  cases f with
  | text f => exact TextFormula.evaluate_eq_error_iff
  | numeric f => exact iff_of_false (fun h => by cases h) id
  | logic f => exact iff_of_false (fun h => by cases h) id

theorem failsOn_iff {f : Formula} {r : Record} : f.failsOn r = true ↔ f.JoinsNothing := by
  unfold failsOn
  cases h : f.evaluate r with
  | ok cell =>
      refine iff_of_false (by simp [Except.isOk, Except.toBool]) fun hj => ?_
      have herror : f.evaluate r = .error .noColumns := evaluate_eq_error_iff.mpr hj
      rw [h] at herror
      cases herror
  | error fault => exact iff_of_true rfl (evaluate_eq_error_iff.mp h)

theorem faults_eq (f : Formula) (t : Table) :
    f.faults t = if f.JoinsNothing then t.length else 0 := by
  rw [faults]
  split
  · rename_i hj
    rw [List.filter_eq_self.mpr fun r _ => failsOn_iff.mpr hj]
  · rename_i hj
    rw [List.filter_eq_nil_iff.mpr fun r _ hr => hj (failsOn_iff.mp hr), List.length_nil]

/-- The second row is the first one with the value of the formula on the first one put under the
column, or the marker when there is no value. -/
structure Computed (f : Formula) (column : String) (r s : Record) : Prop where
  value : ∀ cell, f.evaluate r = .ok cell → s.cells.lookup column = some cell
  marker : ∀ fault, f.evaluate r = .error fault → s.cells.lookup column = some (.text "#ERROR")
  others : ∀ name, name ≠ column → s.cells.lookup name = r.cells.lookup name
  keys : s.keys = if column ∈ r.keys then r.keys else r.keys ++ [column]

theorem computed_put (f : Formula) (column : String) (r : Record) :
    f.Computed column r (r.put column (f.cellOf r)) where
  value cell h := by
    have hc : f.cellOf r = cell := by rw [cellOf, h]
    rw [hc]
    exact lookup_putPair_self column cell r.cells
  marker fault h := by
    have hc : f.cellOf r = .text errorMarker := by rw [cellOf, h]
    rw [hc]
    exact lookup_putPair_self column (.text errorMarker) r.cells
  others name h := lookup_putPair_of_ne h _ r.cells
  keys := r.keys_put column _

/-- A formula with a name that is more than blanks is computed row by row, each row by itself and from
the row as it was, whatever other rows are around it. The rows without value are all of them when the
formula joins no columns, and none of them otherwise. -/
theorem computed_row_by_row (f : Formula) {name : String} (hn : Text.trimmed name ≠ "") :
    columnName name = .ok (Text.trimmed name) ∧
      (∃ row : Record → Record, (∀ t, f.addColumn t (Text.trimmed name) = t.map row) ∧
        ∀ r, f.Computed (Text.trimmed name) r (row r)) ∧
      (∀ t u : Table, f.addColumn (t ++ u) (Text.trimmed name) =
        f.addColumn t (Text.trimmed name) ++ f.addColumn u (Text.trimmed name)) ∧
      ∀ t, f.faults t = if f.JoinsNothing then t.length else 0 :=
  ⟨columnName_of_not_blank hn,
    ⟨fun r => r.put (Text.trimmed name) (f.cellOf r), fun _ => rfl, f.computed_put _⟩,
    fun _ _ => List.map_append, f.faults_eq⟩

/-- A column that is added to itself, in front of one row, behind another and not in a third. -/
theorem computed_row_by_row_of_total :
    let f : Formula := .numeric ⟨.add, "n", some "total", none⟩
    let t : Table := [
      Record.ofList [("total", .text "1.5 kg"), ("n", .number (.ofNat 2))],
      Record.ofList [("n", .number (.infinite false)), ("total", .number (.ofNat 1))],
      Record.ofList [("n", .text "x")]]
    Text.trimmed " total\t" ≠ "" ∧ columnName " total\t" = .ok "total" ∧ f.faults t = 0 ∧
      (∃ row : Record → Record, (∀ t, f.addColumn t "total" = t.map row) ∧
        ∀ r, f.Computed "total" r (row r)) ∧
      f.addColumn t "total" = [
        Record.ofList [("total", .number (.ofDecimal false 35 (-1))), ("n", .number (.ofNat 2))],
        Record.ofList [("n", .number (.infinite false)), ("total", .number (.infinite false))],
        Record.ofList [("n", .text "x"), ("total", .number .zero)]] := by
  intro f t
  have htrim : Text.trimmed " total\t" = "total" := by decide +kernel
  have hn : Text.trimmed " total\t" ≠ "" := by decide +kernel
  have h := computed_row_by_row f hn
  rw [htrim] at h
  exact ⟨hn, h.1, h.2.2.2 t, h.2.1, by decide +kernel⟩

end Formula

end Tabular
