import Mathlib.Data.List.Basic
import Tabular.Filter

set_option autoImplicit false

/-! # Filters in a row

A filter asks of a row that the text of a cell holds a value in some way, both in lower case
(`Filter.Matches`). Filters that are applied one after the other keep the rows that match all of them
(`Table.filterAll_eq`), so that neither their order nor their number matters, and filters of an
unknown operator do not either. The four ways of holding a value are ordered by strength
(`Filter.Matches.weaken`).
-/

namespace Tabular

/-- A column, the value that its cells have to hold, and how they have to hold it. -/
structure Filter where
  column : String
  op : FilterOperator
  value : String
deriving DecidableEq

namespace Filter

/-- The operator of the filter is one of the four. -/
def Recognized (f : Filter) : Prop := ∀ name, f.op ≠ .unrecognized name

/-- The text of the row's cell, in lower case, holds the value, in lower case. -/
def Matches (f : Filter) (r : Record) : Prop :=
  let cell := Text.lower (r.text f.column).toList
  let value := Text.lower f.value.toList
  match f.op with
  | .contains => value <:+: cell
  | .equals => cell = value
  | .startsWith => value <+: cell
  | .endsWith => value <:+ cell
  | .unrecognized _ => True

theorem passes_iff (f : Filter) (r : Record) :
    r.passes f.column f.op f.value = true ↔ f.Matches r := by
  obtain ⟨column, op, value⟩ := f
  cases op with
  | contains => exact Text.occursIn_iff
  | equals => exact beq_iff_eq
  | startsWith => exact Text.startsWith_iff
  | endsWith => exact Text.endsWith_iff
  | unrecognized name => exact iff_of_true rfl trivial

instance (f : Filter) (r : Record) : Decidable (f.Matches r) :=
  decidable_of_iff _ (f.passes_iff r)

theorem matches_of_not_recognized {f : Filter} (h : ¬ f.Recognized) (r : Record) :
    f.Matches r := by
  obtain ⟨column, op, value⟩ := f
  cases op with
  | unrecognized name => trivial
  | _ => exact absurd (fun name he => by cases he) h

/-- The strength of the operators on one column and value. -/
inductive Weaker : FilterOperator → FilterOperator → Prop
  | startsWith : Weaker .equals .startsWith
  | endsWith : Weaker .equals .endsWith
  | containsStart : Weaker .startsWith .contains
  | containsEnd : Weaker .endsWith .contains

/-- What matches an operator matches each weaker one. -/
theorem Matches.weaken {op weaker : FilterOperator} (hop : Weaker op weaker) {column value : String}
    {r : Record} (h : Matches ⟨column, op, value⟩ r) : Matches ⟨column, weaker, value⟩ r := by
  cases hop with
  | startsWith =>
      have heq : Text.lower (r.text column).toList = Text.lower value.toList := h
      exact ⟨[], by rw [List.append_nil, heq]⟩
  | endsWith =>
      have heq : Text.lower (r.text column).toList = Text.lower value.toList := h
      exact ⟨[], by rw [List.nil_append, heq]⟩
  | containsStart =>
      have hprefix : Text.lower value.toList <+: Text.lower (r.text column).toList := h
      exact hprefix.isInfix
  | containsEnd =>
      have hsuffix : Text.lower value.toList <:+ Text.lower (r.text column).toList := h
      exact hsuffix.isInfix

end Filter

namespace Table

/-- The rows that are left by filters applied one after the other. -/
def filterAll (t : Table) (filters : List Filter) : Table :=
  filters.foldl (fun t f => t.filterRows f.column f.op f.value) t

theorem filterRows_eq (t : Table) (f : Filter) :
    t.filterRows f.column f.op f.value = t.filter fun r => decide (f.Matches r) := by
  refine List.filter_congr fun r _ => ?_
  rw [Bool.eq_iff_iff, decide_eq_true_iff]
  exact f.passes_iff r

theorem filterAll_eq (t : Table) (filters : List Filter) :
    t.filterAll filters = t.filter fun r => decide (∀ f ∈ filters, f.Matches r) := by
  induction filters generalizing t with
  | nil => exact (List.filter_eq_self.mpr fun r _ => by simp).symm
  | cons f filters ih =>
      show (t.filterRows f.column f.op f.value).filterAll filters = _
      rw [ih, filterRows_eq, List.filter_filter]
      refine List.filter_congr fun r _ => ?_
      rw [Bool.eq_iff_iff]
      simp [and_comm]

/-- Rows that keep their cell in the column may be changed before or after the filter. -/
theorem filterRows_map {column : String} {row : Record → Record}
    (h : ∀ r, (row r).get column = r.get column) (t : Table) (op : FilterOperator)
    (value : String) :
    filterRows (t.map row) column op value = (t.filterRows column op value).map row := by
  have hpasses : (fun r => r.passes column op value) ∘ row = fun r => r.passes column op value := by
    funext r
    rw [Function.comp_apply, Record.passes, Record.passes, Record.text, Record.text, h]
  rw [filterRows, filterRows, List.filter_map, hpasses]

theorem filterRows_sublist {op weaker : FilterOperator} (hop : Filter.Weaker op weaker) (t : Table)
    (column value : String) :
    (t.filterRows column op value).Sublist (t.filterRows column weaker value) := by
  have hrows := t.filterRows_eq ⟨column, op, value⟩
  have hweaker := t.filterRows_eq ⟨column, weaker, value⟩
  rw [hrows, hweaker]
  refine List.monotone_filter_right t fun r hr => ?_
  rw [decide_eq_true_iff] at hr ⊢
  exact hr.weaken hop

/-- Filters keep the rows that match all of them, as they are and in their order. Any other list of
the same filters keeps the same rows, whatever the order and the repetitions, and whatever filters
of an unknown operator are among them. A weaker operator keeps all rows that a stronger one keeps
for the same column and value. -/
theorem filterAll_keeps_matching_rows (t : Table) (filters : List Filter) :
    (t.filterAll filters = t.filter fun r => decide (∀ f ∈ filters, f.Matches r)) ∧
      (∀ others : List Filter, (∀ f : Filter, f.Recognized → (f ∈ others ↔ f ∈ filters)) →
        t.filterAll others = t.filterAll filters) ∧
      (∀ column name value, t.filterRows column (.unrecognized name) value = t) ∧
      ∀ column value,
        (t.filterRows column .equals value).Sublist (t.filterRows column .startsWith value) ∧
        (t.filterRows column .equals value).Sublist (t.filterRows column .endsWith value) ∧
        (t.filterRows column .startsWith value).Sublist (t.filterRows column .contains value) ∧
        (t.filterRows column .endsWith value).Sublist (t.filterRows column .contains value) := by
  refine ⟨t.filterAll_eq filters, fun others h => ?_, fun column name value => ?_,
    fun column value => ⟨?_, ?_, ?_, ?_⟩⟩
  · rw [filterAll_eq, filterAll_eq]
    refine List.filter_congr fun r _ => decide_eq_decide.mpr ?_
    -- A filter of an unknown operator is matched whichever of the lists it is in.
    constructor <;> intro hall f hf
    · by_cases hrec : f.Recognized
      · exact hall f ((h f hrec).mpr hf)
      · exact Filter.matches_of_not_recognized hrec r
    · by_cases hrec : f.Recognized
      · exact hall f ((h f hrec).mp hf)
      · exact Filter.matches_of_not_recognized hrec r
  · exact List.filter_eq_self.mpr fun r _ => rfl
  · exact t.filterRows_sublist .startsWith column value
  · exact t.filterRows_sublist .endsWith column value
  · exact t.filterRows_sublist .containsStart column value
  · exact t.filterRows_sublist .containsEnd column value

/-- Two filters, the other way round, one of them twice and an unknown one in front. The row without
the column matches the end of nothing. -/
theorem filterAll_keeps_matching_rows_of_cities :
    let t : Table := [
      Record.ofList [("city", .text "New York"), ("n", .number (.ofNat 10))],
      Record.ofList [("city", .text "NEWARK"), ("n", .number (.ofNat 1))],
      Record.ofList [("n", .text "10")]]
    let start : Filter := ⟨"city", .startsWith, "new"⟩
    let last : Filter := ⟨"n", .endsWith, "0"⟩
    let unknown : Filter := ⟨"city", .ofName "Between", "x"⟩
    (∀ f : Filter, f.Recognized → (f ∈ [unknown, last, start, last] ↔ f ∈ [start, last])) ∧
      t.filterAll [unknown, last, start, last] = t.filterAll [start, last] ∧
      t.filterAll [start, last] = t.take 1 := by
  intro t start last unknown
  have hmem : ∀ f : Filter, f.Recognized →
      (f ∈ [unknown, last, start, last] ↔ f ∈ [start, last]) := by
    intro f hf
    have hne : f ≠ unknown := by
      rintro rfl
      exact hf "Between" (by decide +kernel)
    simp only [List.mem_cons, List.not_mem_nil, or_false, hne, false_or]
    rw [or_left_comm, or_self]
  exact ⟨hmem, (t.filterAll_keeps_matching_rows [start, last]).2.1 _ hmem, by decide +kernel⟩

end Table

end Tabular
