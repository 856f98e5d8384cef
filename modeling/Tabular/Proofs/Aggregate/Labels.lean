import Tabular.Load
import Tabular.Proofs.Aggregate.Reduction
import Tabular.Proofs.Number.Numeral

set_option autoImplicit false

/-! # Labels of groups

A label is the text of a cell, and `(Blank)` for a blank one. It tells texts apart, except that a
cell with the text `(Blank)` has the label of blank cells (`label_eq_label_iff`), so that such rows
are counted together (`counted_together_iff`, `Load.blank_row_counted_with_its_label`).

The record of a group holds the label under the name of the group column, unless the result has
that name too: then the result takes its place (`aggregate_names_groups`,
`Load.label_replaced_by_result`).
-/

namespace Tabular.Aggregate

/-! ## Rows that are counted together -/

theorem isBlank_iff (c : Cell) : c.isBlank = true ↔ c.toText = "" := by
  cases c with
  | empty => simp [Cell.isBlank]
  | number x => simpa [Cell.isBlank, Cell.toText] using x.toText_ne_empty
  | text s => simp [Cell.isBlank]

/-- One text is empty, and the other one is the label of blank cells. -/
def BlankAndLabel (s s' : String) : Prop := s = "" ∧ s' = blankLabel ∨ s = blankLabel ∧ s' = ""

/-- Labels tell texts apart, the empty text and the label of blank cells excepted. -/
theorem label_eq_label_iff (c d : Cell) :
    label c = label d ↔ c.toText = d.toText ∨ BlankAndLabel c.toText d.toText := by
  have hlabel (c : Cell) : label c = if c.toText = "" then blankLabel else c.toText := by
    simp only [label, isBlank_iff]
  have hne : blankLabel ≠ "" := by decide
  rw [hlabel, hlabel, BlankAndLabel]
  by_cases hc : c.toText = "" <;> by_cases hd : d.toText = ""
  · simp [hc, hd]
  · simp [hc, hd, hne.symm, eq_comm]
  · simp [hc, hd]
  · simp [hc, hd]

/-- There is a group that both rows belong to. -/
def CountedTogether (t : Table) (group : String) (r s : Record) : Prop :=
  ∃ l ∈ labels t group, r ∈ members t group l ∧ s ∈ members t group l

/-- Each record is reduced from the rows of its own group, and two rows are in one group exactly
if the texts of their group cells are the same, or one of them is blank and the other one has the
text that stands for blank cells. -/
theorem counted_together_iff (t : Table) (group value : String) (f : AggregateFunction) :
    List.Forall₂
      (fun l record => Reduces value (members t group l) f (record.get (f.column value)))
      (labels t group) (t.aggregate group value f) ∧
    ∀ r s : Record, CountedTogether t group r s ↔
      r ∈ t ∧ s ∈ t ∧
        (r.text group = s.text group ∨ BlankAndLabel (r.text group) (s.text group)) := by
  refine ⟨reduces_aggregate t group value f, fun r s => ?_⟩
  rw [Record.text, Record.text, ← label_eq_label_iff]
  constructor
  · rintro ⟨l, -, hr, hs⟩
    obtain ⟨hr, hrl⟩ := mem_members.mp hr
    obtain ⟨hs, hsl⟩ := mem_members.mp hs
    exact ⟨hr, hs, hrl.trans hsl.symm⟩
  · rintro ⟨hr, hs, hl⟩
    exact ⟨label (r.get group), mem_labels.mpr ⟨r, hr, rfl⟩, mem_members.mpr ⟨hr, rfl⟩,
      mem_members.mpr ⟨hs, hl.symm⟩⟩

end Tabular.Aggregate

namespace Tabular

/-- A blank cell and the text `(Blank)` of a file are counted as one group. -/
theorem Load.blank_row_counted_with_its_label :
    let r : Record := Record.ofList [("g", .empty), ("v", .number (.ofNat 1))]
    let s : Record := Record.ofList [("g", .text "(Blank)"), ("v", .number (.ofNat 2))]
    Load.delimited {} ',' "g,v\n,1\n(Blank),2\n".toUTF8 = .ok [r, s] ∧
      Table.aggregate [r, s] "g" "v" .count =
        [Record.ofList [("g", .text "(Blank)"), ("COUNT_v", .number (.ofNat 2))]] ∧
      r.text "g" ≠ s.text "g" := by
  decide +kernel

namespace Aggregate

/-! ## Names of groups -/

theorem resultCell_ne_text (result : Option Number) (s : String) : resultCell result ≠ .text s := by
  cases result <;> simp [resultCell]

/-- The record has two columns, the label of the group and its result. -/
def NamesGroup (t : Table) (group value : String) (f : AggregateFunction) (l : String)
    (record : Record) : Prop :=
  ∃ cell, Reduces value (members t group l) f cell ∧
    record.cells = [(group, .text l), (f.column value, cell)]

/-- The labels of a table are distinct. Exactly if the column of the results has another name than
the group column, each record names its group, and the labels are read back from the group
column. -/
theorem aggregate_names_groups (t : Table) (group value : String) (f : AggregateFunction) :
    (labels t group).Nodup ∧
    List.Forall₂ (fun l record => NamesGroup t group value f l record ↔ group ≠ f.column value)
      (labels t group) (t.aggregate group value f) ∧
    ((t.aggregate group value f).map (fun record => record.get group) =
        (labels t group).map .text ↔
      t = [] ∨ group ≠ f.column value) := by
  refine ⟨nodup_labels t group, forall₂_aggregate t group value fun l => ?_, ?_⟩
  · constructor
    · rintro ⟨cell, -, hcells⟩ heq
      rw [cells_groupRecord_of_eq _ _ heq] at hcells
      simp at hcells
    · intro hne
      exact ⟨_, reduces_result value _ f, cells_groupRecord _ _ hne⟩
  · rw [aggregate_eq, List.map_map, List.map_inj_left]
    constructor
    · intro hread
      by_contra hnot
      obtain ⟨hne, heq⟩ := not_or.mp hnot
      obtain ⟨r, hr⟩ := List.exists_mem_of_ne_nil t hne
      have hcell := hread _ (mem_labels.mpr ⟨r, hr, rfl⟩)
      rw [Function.comp_apply, not_not.mp heq, get_groupRecord_column] at hcell
      exact resultCell_ne_text _ _ hcell
    · rintro (rfl | hne) l hl
      · simp [labels] at hl
      · exact get_groupRecord_group _ _ hne

end Aggregate

/-- A column that was counted before is grouped and counted again: the label is lost. -/
theorem Load.label_replaced_by_result :
    let r : Record := Record.ofList
      [("region", .text "North"), ("COUNT_amount", .number (.ofNat 3))]
    Load.delimited {} ',' "region,COUNT_amount\nNorth,3\n".toUTF8 = .ok [r] ∧
      Aggregate.labels [r] "COUNT_amount" = ["3"] ∧
      Table.aggregate [r] "COUNT_amount" "amount" .count =
        [Record.ofList [("COUNT_amount", .number (.ofNat 1))]] := by
  decide +kernel

end Tabular
