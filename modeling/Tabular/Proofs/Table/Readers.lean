import Tabular.Reshape
import Tabular.Formula.Logic
import Tabular.Formula.Numeric
import Tabular.Hierarchy
import Tabular.Proofs.Aggregate.Labels
import Tabular.Proofs.Number.Reading
import Tabular.Sort

set_option autoImplicit false

/-! # Rules that read numbers

The rules of a table read the number of a cell, or the number that its text starts with; and they
compare cells by their texts. It is the same number either way (`SameReading`), so a rule that reads
texts agrees with a rule that reads cells, and cells with the same key stand for the same number
(`texts_read_as_cells`). A rule gives the same for a field that was inferred to be a number and for
its text (`inferred_number_read_alike`).
-/

namespace Tabular

/-! ## Keys -/

/-- Rows with the same text in a column have the same number there. -/
theorem Record.sameReading_of_text_eq {r s : Record} {key : String} (h : r.text key = s.text key) :
    SameReading (r.get key).number? (s.get key).number? := Cell.sameReading_of_toText_eq h

theorem Record.identity_singleton (r : Record) (key : String) : r.identity [key] = r.text key := by
  simp [identity]

theorem Hierarchy.compositeKey_singleton (r : Record) (key : String) :
    compositeKey [key] r = r.text key := by
  simp [compositeKey]

/-- Cells with the same label stand for the same number: what a blank cell shares its label with
is no number. -/
theorem Aggregate.sameReading_of_label_eq {c d : Cell} (h : label c = label d) :
    SameReading c.number? d.number? := by
  have hempty : Number.ofText? "" = none := rfl
  have hblank : Number.ofText? blankLabel = none := by decide
  have hc := c.sameReading_toText
  have hd := d.sameReading_toText
  rcases (label_eq_label_iff c d).mp h with h | ⟨h, h'⟩ | ⟨h, h'⟩
  · exact Cell.sameReading_of_toText_eq h
  · rw [h, hempty] at hc
    rw [h', hblank] at hd
    exact hc.symm.trans hd
  · rw [h, hblank] at hc
    rw [h', hempty] at hd
    exact hc.symm.trans hd

/-! ## Comparisons -/

namespace LogicOperator

/-- Compares two readings; without a number on both sides nothing holds. -/
def compareReadings (less : Number → Number → Bool) : Option Number → Option Number → Bool
  | some x, some y => less x y
  | _, _ => false

theorem compareReadings_congr {less : Number → Number → Bool}
    (hless : ∀ x x' y y', x.same x' = true → y.same y' = true → less x y = less x' y')
    {a a' b b' : Option Number} (ha : SameReading a a') (hb : SameReading b b') :
    compareReadings less a b = compareReadings less a' b' := by
  cases ha with
  | none => rfl
  | some hx =>
      cases hb with
      | none => rfl
      | some hy => exact hless _ _ _ _ hx hy

/-- An order test between texts holds between the numbers that they are read as. -/
theorem less_holds {cell check : String} {a b : Option Number}
    (ha : SameReading (Number.ofText? cell) a) (hb : SameReading (Number.ofText? check) b) :
    less.holds cell check = compareReadings Number.lt a b :=
  compareReadings_congr (fun _ _ _ _ hx hy => Number.lt_congr hx hy) ha hb

theorem greater_holds {cell check : String} {a b : Option Number}
    (ha : SameReading (Number.ofText? cell) a) (hb : SameReading (Number.ofText? check) b) :
    greater.holds cell check = compareReadings (fun x y => y.lt x) a b :=
  compareReadings_congr (fun _ _ _ _ hx hy => Number.lt_congr hy hx) ha hb

/-- An order test does not tell texts of the same number apart. -/
theorem holds_congr {op : LogicOperator} (hop : op = .less ∨ op = .greater) {cell cell' : String}
    (h : SameReading (Number.ofText? cell) (Number.ofText? cell')) (check : String) :
    op.holds cell check = op.holds cell' check := by
  have hcheck : SameReading (Number.ofText? check) (Number.ofText? check) :=
    .of_eq rfl fun x => Number.isNan_of_ofText?
  rcases hop with rfl | rfl
  · exact less_holds h hcheck
  · exact greater_holds h hcheck

end LogicOperator

theorem Number.order_eq_lt_iff {x y : Number} : x.order y = .lt ↔ x.lt y = true := by
  unfold order
  by_cases hxy : x.lt y = true
  · simp [hxy]
  · by_cases hyx : y.lt x = true <;> simp [hxy, hyx]

theorem Number.order_eq_gt_iff {x y : Number} : x.order y = .gt ↔ y.lt x = true := by
  rw [← order_eq_lt_iff, ← order_swap]
  cases y.order x <;> decide

theorem Cell.order_sortKey {c d : Cell} {x y : Number} (hx : c.number? = some x)
    (hy : d.number? = some y) (collate : Collate) :
    c.sortKey.order collate d.sortKey = x.order y := by
  simp only [SortKey.order, sortKey, hx, hy]

/-- The order tests compare the texts of two cells as the sort compares the cells. -/
theorem LogicOperator.holds_iff_order {c d : Cell} {x y : Number} (hx : c.number? = some x)
    (hy : d.number? = some y) (collate : Collate) :
    (less.holds c.toText d.toText = true ↔ c.sortKey.order collate d.sortKey = .lt) ∧
      (greater.holds c.toText d.toText = true ↔ c.sortKey.order collate d.sortKey = .gt) := by
  have hc := c.sameReading_toText
  have hd := d.sameReading_toText
  rw [hx] at hc
  rw [hy] at hd
  rw [Cell.order_sortKey hx hy, less_holds hc hd, greater_holds hc hd]
  exact ⟨Number.order_eq_lt_iff.symm, Number.order_eq_gt_iff.symm⟩

/-! ## Operands -/

namespace NumericFormula

/-- The first operand is what the text of its cell is read as. -/
theorem same_firstOperand (f : NumericFormula) (r : Record) :
    ((Number.ofText? (r.text f.column)).getD .zero).same (f.firstOperand r) = true :=
  (r.get f.column).sameReading_toText.getD

/-- The second operand is the same if the text of its cell is given in place of the column. -/
theorem same_secondOperand (f : NumericFormula) (r : Record) {column : String}
    (h : column ≠ "") :
    ({ f with secondColumn := none, scalar := some (r.text column) }.secondOperand r).same
      ({ f with secondColumn := some column }.secondOperand r) = true := by
  have hsecond : { f with secondColumn := some column }.second? = some column := by
    simp [second?, h]
  simp only [secondOperand, hsecond]
  exact (r.get column).sameReading_toText.getD

/-- The operands of a formula are the numbers of its cells. -/
theorem evaluate_congr (f : NumericFormula) {r s : Record}
    (h : ∀ key, (r.get key).number? = (s.get key).number?) : f.evaluate r = f.evaluate s := by
  have hfirst : f.firstOperand r = f.firstOperand s := by rw [firstOperand, firstOperand, h]
  have hsecond : f.secondOperand r = f.secondOperand s := by
    unfold secondOperand
    cases f.second? with
    | none => rfl
    | some column => simp only [h]
  rw [evaluate, evaluate, hfirst, hsecond]

end NumericFormula

/-! ## Groups -/

/-- The rows of two tables have the same labels and the same numbers. -/
def Aggregate.CountedAlike (group value : String) : Table → Table → Prop :=
  List.Forall₂ fun r s => label (r.get group) = label (s.get group) ∧
    (r.get value).number? = (s.get value).number?

/-- An aggregation counts labels and numbers. -/
theorem Table.aggregate_congr {t u : Table} {group value : String}
    (h : Aggregate.CountedAlike group value t u) (f : AggregateFunction) :
    t.aggregate group value f = u.aggregate group value f := by
  have hcount (tallies : List (String × Aggregate.Tally)) :
      t.foldl (Aggregate.count group value) tallies =
        u.foldl (Aggregate.count group value) tallies := by
    induction h generalizing tallies with
    | nil => rfl
    | cons hr _ ih =>
        rw [List.foldl_cons, List.foldl_cons, ih]
        simp only [Aggregate.count, hr.1, hr.2]
  rw [aggregate, aggregate, Aggregate.tallies, Aggregate.tallies, hcount]

/-! ## The text of a cell -/

/-- The text of a cell is read as the cell itself: by the reader of texts, by inference, by what
compares keys, and by the rules that compare texts or compute with numbers. -/
theorem texts_read_as_cells :
    (∀ c : Cell, SameReading (Number.ofText? c.toText) c.number?) ∧
    (∀ x : Number, x.isFinite = true →
      Cell.infer x.toText = .number (if x.isZero then .zero else x)) ∧
    (∀ x y : Number, x.isNan = false → y.isNan = false →
      (x.toText = y.toText ↔ x.same y = true)) ∧
    (∀ c d : Cell, Aggregate.label c = Aggregate.label d → SameReading c.number? d.number?) ∧
    (∀ (r s : Record) (key : String),
      r.identity [key] = s.identity [key] ∨
        Hierarchy.compositeKey [key] r = Hierarchy.compositeKey [key] s →
      SameReading (r.get key).number? (s.get key).number?) ∧
    (∀ (collate : Collate) (c d : Cell) (x y : Number), c.number? = some x → d.number? = some y →
      (LogicOperator.less.holds c.toText d.toText = true ↔
        c.sortKey.order collate d.sortKey = .lt) ∧
      (LogicOperator.greater.holds c.toText d.toText = true ↔
        c.sortKey.order collate d.sortKey = .gt)) ∧
    (∀ (f : NumericFormula) (r : Record),
      ((Number.ofText? (r.text f.column)).getD .zero).same (f.firstOperand r) = true) ∧
    ∀ (f : NumericFormula) (r : Record) (column : String), column ≠ "" →
      ({ f with secondColumn := none, scalar := some (r.text column) }.secondOperand r).same
        ({ f with secondColumn := some column }.secondOperand r) = true := by
  refine ⟨Cell.sameReading_toText, fun x => Cell.infer_toText, fun x y => Number.toText_eq_iff,
    fun c d => Aggregate.sameReading_of_label_eq, fun r s key h => ?_,
    fun collate c d x y hx hy => LogicOperator.holds_iff_order hx hy collate,
    NumericFormula.same_firstOperand, fun f r column => f.same_secondOperand r⟩
  rw [Record.identity_singleton, Record.identity_singleton, Hierarchy.compositeKey_singleton,
    Hierarchy.compositeKey_singleton, or_self] at h
  exact Record.sameReading_of_text_eq h

theorem texts_read_as_cells_of_small_number :
    let x := Number.ofDecimal true 15 (-9)
    x.toText = "-1.5e-8" ∧ Cell.infer x.toText = .number x ∧
      x.toText ≠ Number.zero.toText ∧
      SameReading (Cell.number x).number? (Cell.text "-1.5e-8").number? ∧
      (Cell.number x).sortKey.order Collation.collate (Cell.text "1 kg").sortKey = .lt := by
  intro x
  obtain ⟨-, hinfer, hkeys, hlabels, -, horder, -, -⟩ := texts_read_as_cells
  have htext : x.toText = "-1.5e-8" := by decide +kernel
  have hzero : x.isZero = false := by decide +kernel
  have hx : (Cell.number x).number? = some x := by decide +kernel
  have hread := hinfer x (by decide +kernel)
  rw [hzero] at hread
  refine ⟨htext, hread, fun h => ?_, hlabels _ _ (by decide +kernel), ?_⟩
  · have hsame := (hkeys x .zero (by decide +kernel) rfl).mp h
    revert hsame
    decide +kernel
  · have hkg : (Cell.text "1 kg").number? = some (.ofNat 1) := by decide +kernel
    exact (horder Collation.collate _ _ _ _ hx hkg).1.mp (by decide +kernel)

/-! ## A field kept as a text -/

section

variable {c d : Cell} (r : Record) (column : String)

theorem Record.number?_get_put (h : c.number? = d.number?) (key : String) :
    ((r.put column c).get key).number? = ((r.put column d).get key).number? := by
  by_cases hk : key = column
  · rw [hk, get_put_self, get_put_self, h]
  · rw [get_put_of_ne r hk, get_put_of_ne r hk]

theorem Record.sameReading_text_put
    (h : SameReading (Number.ofText? c.toText) (Number.ofText? d.toText)) (key : String) :
    SameReading (Number.ofText? ((r.put column c).text key))
      (Number.ofText? ((r.put column d).text key)) := by
  rw [text, text]
  by_cases hk : key = column
  · rwa [hk, get_put_self, get_put_self]
  · rw [get_put_of_ne r hk, get_put_of_ne r hk]
    exact .of_eq rfl fun x => Number.isNan_of_ofText?

theorem Aggregate.countedAlike_put (h : c.number? = d.number?) {group value : String}
    (hne : group ≠ value) (before after : Table) :
    CountedAlike group value (before ++ r.put value c :: after)
      (before ++ r.put value d :: after) := by
  have hsame (t : Table) : CountedAlike group value t t :=
    List.forall₂_same.mpr fun _ _ => ⟨rfl, rfl⟩
  refine List.rel_append (hsame before) (.cons ⟨?_, r.number?_get_put value h value⟩ (hsame after))
  rw [Record.get_put_of_ne r hne, Record.get_put_of_ne r hne]

end

/-- A field that is inferred to be a number starts with this number. So it does not matter whether
the number or the text of the field is in the table: they have the same place among numbers, the
same value in numeric formulas and in the order tests of conditional ones, and they are
aggregated alike. -/
theorem inferred_number_read_alike {field : String} {x : Number}
    (h : Cell.infer field = .number x) :
    Number.ofText? field = some x ∧ (Cell.text field).number? = (Cell.number x).number? ∧
    (∀ (collate : Collate) (c : Cell), c.number?.isSome = true →
      (Cell.text field).sortKey.order collate c.sortKey =
        (Cell.number x).sortKey.order collate c.sortKey ∧
      c.sortKey.order collate (Cell.text field).sortKey =
        c.sortKey.order collate (Cell.number x).sortKey) ∧
    (∀ (f : NumericFormula) (r : Record) (column : String),
      f.evaluate (r.put column (.text field)) = f.evaluate (r.put column (.number x))) ∧
    (∀ (f : LogicFormula) (r : Record) (column : String),
      f.operator = .less ∨ f.operator = .greater →
      f.evaluate (r.put column (.text field)) = f.evaluate (r.put column (.number x))) ∧
    ∀ (before after : Table) (r : Record) (group value : String) (f : AggregateFunction),
      group ≠ value →
      Table.aggregate (before ++ r.put value (.text field) :: after) group value f =
        Table.aggregate (before ++ r.put value (.number x) :: after) group value f := by
  have hread := Cell.ofText?_of_infer h
  have htext : (Cell.text field).number? = some x := hread
  have hnumber : (Cell.number x).number? = some x := by
    simp [Cell.number?, Number.isNan_of_ofText? hread]
  have hsame : (Cell.text field).number? = (Cell.number x).number? := htext.trans hnumber.symm
  -- Keys and operands are read as numbers, order tests as texts, and aggregates as both.
  refine ⟨hread, hsame, fun collate c hc => ?_, fun f r column => ?_, fun f r column hop => ?_,
    fun before after r group value f hne => ?_⟩
  · obtain ⟨y, hy⟩ := Option.isSome_iff_exists.mp hc
    rw [Cell.order_sortKey htext hy, Cell.order_sortKey hnumber hy, Cell.order_sortKey hy htext,
      Cell.order_sortKey hy hnumber]
    exact ⟨rfl, rfl⟩
  · exact f.evaluate_congr (r.number?_get_put column hsame)
  · have hreading : SameReading (Number.ofText? (Cell.text field).toText)
        (Number.ofText? (Cell.number x).toText) := by
      refine (Cell.sameReading_toText _).trans ?_
      rw [hsame]
      exact (Cell.sameReading_toText _).symm
    have hput := r.sameReading_text_put column hreading f.column
    rw [LogicFormula.evaluate, LogicFormula.evaluate, LogicOperator.holds_congr hop hput]
  · exact Table.aggregate_congr (Aggregate.countedAlike_put r hsame hne before after) f

theorem inferred_number_read_alike_with_blanks :
    Cell.infer " +1.2e1\u00A0" = .number (.ofNat 12) ∧
      Number.ofText? " +1.2e1\u00A0" = some (.ofNat 12) := by
  have h : Cell.infer " +1.2e1\u00A0" = .number (.ofNat 12) := by decide +kernel
  exact ⟨h, (inferred_number_read_alike h).1⟩

end Tabular
