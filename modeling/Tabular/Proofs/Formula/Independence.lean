import Mathlib.Data.List.Forall2
import Tabular.Proofs.Filter.Conjunction
import Tabular.Proofs.Formula.Column
import Tabular.Proofs.Table.Sort

set_option autoImplicit false

/-! # What the column of a formula leaves alone

A formula looks at the cells of the columns that it reads (`Formula.reads`) and at nothing else of
a row (`Formula.evaluate_of_agreeOn`), and it changes one column only. So a row step on another
column may come before it or behind it (`Formula.addColumn_commutes`): a filter and a sort give the
same table, and a second formula gives the same cells if neither formula reads the column of the
other. For the sort this needs nothing of the order, since the rows are compared by the cells of its
column and by nothing else.
-/

namespace Tabular

/-! ## The columns that a formula reads -/

/-- Two rows have the same cells under these names. -/
def Record.AgreeOn (names : List String) (r s : Record) : Prop :=
  ∀ name ∈ names, r.get name = s.get name

theorem Record.AgreeOn.text_eq {names : List String} {r s : Record} (h : r.AgreeOn names s)
    {name : String} (hn : name ∈ names) : r.text name = s.text name := by
  rw [text, text, h name hn]

theorem Record.agreeOn_put {names : List String} {column : String} (h : column ∉ names)
    (r : Record) (cell : Cell) : (r.put column cell).AgreeOn names r := by
  intro name hn
  have hne : name ≠ column := by
    rintro rfl
    exact h hn
  exact get_put_of_ne r hne cell

/-- A list of columns for the function that joins texts, and one column for the others. -/
def TextFormula.reads (f : TextFormula) : List String :=
  match f.function with
  | .concat => f.columns
  | _ => [f.column]

/-- The column, and the second column of a function with two operands. -/
def NumericFormula.reads (f : NumericFormula) : List String :=
  f.column :: if f.function.isBinary then f.second?.toList else []

/-- The columns that the value of a formula depends on. -/
def Formula.reads : Formula → List String
  | .text f => f.reads
  | .numeric f => f.reads
  | .logic f => [f.column]

theorem TextFormula.evaluate_of_agreeOn {f : TextFormula} {r s : Record}
    (h : r.AgreeOn f.reads s) : f.evaluate r = f.evaluate s := by
  obtain ⟨function, column, columns, argument⟩ := f
  cases function with
  | concat =>
      have htexts : columns.map r.text = columns.map s.text :=
        List.map_congr_left fun name hn => h.text_eq hn
      simp only [evaluate, htexts]
  | trim | upper | lower | len | left | right =>
      have htext : r.text column = s.text column := h.text_eq (List.mem_singleton_self column)
      simp only [evaluate, htext]

/-- A function of one operand looks at no other. -/
theorem NumericFunction.apply_of_not_isBinary {f : NumericFunction} (h : f.isBinary = false)
    (x y z : Number) : f.apply x y = f.apply x z := by
  cases f with
  | round | ceil | floor | abs => rfl
  | add | sub | mult | div => cases h

theorem NumericFormula.evaluate_of_agreeOn {f : NumericFormula} {r s : Record}
    (h : r.AgreeOn f.reads s) : f.evaluate r = f.evaluate s := by
  have hfirst : f.firstOperand r = f.firstOperand s := by
    rw [firstOperand, firstOperand, h f.column List.mem_cons_self]
  cases hb : f.function.isBinary with
  | false =>
      rw [evaluate, evaluate, hfirst,
        NumericFunction.apply_of_not_isBinary hb _ (f.secondOperand r) (f.secondOperand s)]
  | true =>
      have hsecond : f.secondOperand r = f.secondOperand s := by
        unfold secondOperand
        cases hc : f.second? with
        | none => rfl
        | some column =>
            have hmem : column ∈ f.reads := by simp [reads, hb, hc]
            simp only [h column hmem]
      rw [evaluate, evaluate, hfirst, hsecond]

theorem LogicFormula.evaluate_of_text_eq {f : LogicFormula} {r s : Record}
    (h : r.text f.column = s.text f.column) : f.evaluate r = f.evaluate s := by
  rw [evaluate, evaluate, h]

namespace Formula

/-- The value of a formula depends on the columns that it reads, and on nothing else. -/
theorem evaluate_of_agreeOn {f : Formula} {r s : Record} (h : r.AgreeOn f.reads s) :
    f.evaluate r = f.evaluate s := by
  cases f with
  | text f => exact TextFormula.evaluate_of_agreeOn h
  | numeric f => exact congrArg Except.ok (NumericFormula.evaluate_of_agreeOn h)
  | logic f =>
      have htext : r.text f.column = s.text f.column := h.text_eq (List.mem_singleton_self f.column)
      exact congrArg Except.ok (LogicFormula.evaluate_of_text_eq htext)

theorem cellOf_put {f : Formula} {column : String} (h : column ∉ f.reads) (r : Record)
    (cell : Cell) : f.cellOf (r.put column cell) = f.cellOf r := by
  rw [cellOf, cellOf, evaluate_of_agreeOn (r.agreeOn_put h cell)]

end Formula

/-! ## Rows with the same cells -/

/-- The same cell under each name, or none. The columns may stand in another order. -/
def Record.SameCells (r s : Record) : Prop := ∀ name, r.cells.lookup name = s.cells.lookup name

/-- As many rows, with the same cells one by one. -/
def Table.SameCells (t u : Table) : Prop := List.Forall₂ Record.SameCells t u

/-- Under different names, the later of two puts does not see the earlier one. -/
theorem Record.sameCells_put_put {c d : String} (h : d ≠ c) (r : Record) (x y : Cell) :
    ((r.put c x).put d y).SameCells ((r.put d y).put c x) := by
  intro name
  by_cases hd : name = d
  · subst hd
    rw [put, lookup_putPair_self, put, lookup_putPair_of_ne h, put, lookup_putPair_self]
  · rw [put, lookup_putPair_of_ne hd]
    by_cases hc : name = c
    · subst hc
      rw [put, lookup_putPair_self, put, lookup_putPair_self]
    · rw [put, lookup_putPair_of_ne hc, put, lookup_putPair_of_ne hc, put, lookup_putPair_of_ne hd]

/-! ## Steps on other columns -/

namespace Formula

theorem filterRows_addColumn (f : Formula) (t : Table) {c column : String} (h : column ≠ c)
    (op : FilterOperator) (value : String) :
    (f.addColumn t c).filterRows column op value = f.addColumn (t.filterRows column op value) c :=
  Table.filterRows_map (fun r => r.get_put_of_ne h (f.cellOf r)) t op value

theorem sortBy_addColumn (collate : Collate) (f : Formula) (t : Table) {c column : String}
    (h : column ≠ c) :
    (f.addColumn t c).sortBy collate column = f.addColumn (t.sortBy collate column) c :=
  Table.sortBy_map collate (fun r => r.get_put_of_ne h (f.cellOf r)) t

/-- Two formulas may be computed in either order. The rows get the same cells; behind their columns
stand the new ones, in the order in which they were added. -/
structure Interchangeable (f g : Formula) (c d : String) (t : Table) : Prop where
  cells : (g.addColumn (f.addColumn t c) d).SameCells (f.addColumn (g.addColumn t d) c)
  keys : (g.addColumn (f.addColumn t c) d).map Record.keys = t.map fun r => extended r.keys [c, d]
  keys' : (f.addColumn (g.addColumn t d) c).map Record.keys = t.map fun r => extended r.keys [d, c]
  faults : f.faults (g.addColumn t d) = f.faults t
  faults' : g.faults (f.addColumn t c) = g.faults t

theorem keys_addColumn_addColumn (f g : Formula) (c d : String) (t : Table) :
    (g.addColumn (f.addColumn t c) d).map Record.keys = t.map fun r => extended r.keys [c, d] := by
  rw [addColumn, addColumn, List.map_map, List.map_map]
  refine List.map_congr_left fun r _ => ?_
  simp only [Function.comp_apply, Record.keys_put_eq_extended]
  rfl

theorem faults_addColumn (f g : Formula) (t : Table) (d : String) :
    f.faults (g.addColumn t d) = f.faults t := by
  rw [faults_eq, faults_eq, addColumn, List.length_map]

theorem interchangeable {f g : Formula} {c d : String} (hne : d ≠ c) (hf : d ∉ f.reads)
    (hg : c ∉ g.reads) (t : Table) : f.Interchangeable g c d t where
  cells := by
    rw [Table.SameCells, addColumn, addColumn, addColumn, addColumn, List.map_map, List.map_map,
      List.forall₂_map_left_iff, List.forall₂_map_right_iff, List.forall₂_same]
    intro r _
    simp only [Function.comp_apply, cellOf_put hf, cellOf_put hg]
    exact r.sameCells_put_put hne _ _
  keys := keys_addColumn_addColumn f g c d t
  keys' := keys_addColumn_addColumn g f d c t
  faults := f.faults_addColumn g t d
  faults' := g.faults_addColumn f t c

/-- A formula may be computed before or after a filter or a sort by another column, in whatever way
texts are compared, and before or after a formula in another column when neither reads the column of
the other. -/
theorem addColumn_commutes (collate : Collate) (f : Formula) {name c : String}
    (hc : Text.trimmed name = c) (hc0 : c ≠ "") (t : Table) :
    columnName name = .ok c ∧
      (∀ column value op, column ≠ c →
        (f.addColumn t c).filterRows column op value =
          f.addColumn (t.filterRows column op value) c) ∧
      (∀ column, column ≠ c →
        (f.addColumn t c).sortBy collate column = f.addColumn (t.sortBy collate column) c) ∧
      ∀ (g : Formula) (other d : String), Text.trimmed other = d → d ≠ "" → d ≠ c →
        d ∉ f.reads → c ∉ g.reads →
        columnName other = .ok d ∧ f.Interchangeable g c d t := by
  have hname {name c : String} (hc : Text.trimmed name = c) (hc0 : c ≠ "") :
      columnName name = .ok c := by
    subst hc
    exact columnName_of_not_blank hc0
  refine ⟨hname hc hc0, fun column value op hne => f.filterRows_addColumn t hne op value,
    fun column hne => f.sortBy_addColumn collate t hne, ?_⟩
  intro g other d hd hd0 hne hf hg
  exact ⟨hname hd hd0, interchangeable hne hf hg t⟩

/-- The order goes round in the column of the sort, and both formulas read it. -/
theorem addColumn_commutes_of_total :
    let f : Formula := .numeric ⟨.mult, "n", some "k", none⟩
    let g : Formula := .text ⟨.concat, "", ["n", "k"], none⟩
    let t : Table := [
      Record.ofList [("k", .number (.ofNat 10)), ("n", .text "2 kg")],
      Record.ofList [("k", .text "(4)"), ("n", .number (.ofNat 3))],
      Record.ofList [("k", .number (.ofNat 9))]]
    Text.trimmed " total\t" = "total" ∧ Text.trimmed "code" = "code" ∧
      "code" ∉ f.reads ∧ "total" ∉ g.reads ∧
      (f.addColumn t "total").sort "k" = f.addColumn (t.sort "k") "total" ∧
      (f.addColumn t "total").filterRows "k" .equals "9" =
        f.addColumn (t.filterRows "k" .equals "9") "total" ∧
      f.Interchangeable g "total" "code" t ∧
      (g.addColumn (f.addColumn t "total") "code").headers = ["k", "n", "total", "code"] ∧
      (f.addColumn (g.addColumn t "code") "total").headers = ["k", "n", "code", "total"] := by
  intro f g t
  have hc : Text.trimmed " total\t" = "total" := by decide +kernel
  have hd : Text.trimmed "code" = "code" := by decide +kernel
  have hf : "code" ∉ f.reads := by decide
  have hg : "total" ∉ g.reads := by decide
  obtain ⟨-, hfilter, hsort, hswap⟩ :=
    addColumn_commutes Collation.collate f hc (by decide) t
  exact ⟨hc, hd, hf, hg, hsort "k" (by decide), hfilter "k" "9" .equals (by decide),
    (hswap g "code" "code" hd (by decide) (by decide) hf hg).2, by decide +kernel,
    by decide +kernel⟩

end Formula

end Tabular
