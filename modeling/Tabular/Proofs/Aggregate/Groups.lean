import Mathlib.Algebra.BigOperators.Group.List.Lemmas
import Mathlib.Algebra.GroupWithZero.Nat
import Mathlib.Data.List.Dedup
import Tabular.Aggregate
import Tabular.Proofs.Table.FirstSeen
import Tabular.Proofs.Table.Keys

set_option autoImplicit false

/-! # Groups of a table

One pass over the rows counts all groups at once. What it has counted at the end for a label is
what the rows with this label give on their own, and the labels stand in the order in which they
first appear (`tallies_eq`). So an aggregation has one record for each label, reduced from the
rows with this label (`aggregate_eq`), and every row is in one group (`sum_length_members`).
-/

namespace Tabular.Aggregate

/-! ## Labels and their rows -/

/-- The labels of a table, in the order in which they first appear. -/
def labels (t : Table) (group : String) : List String :=
  (t.map fun r => label (r.get group)).eraseDups

def members (t : Table) (group l : String) : Table := t.filter fun r => label (r.get group) = l

def numbers (rows : Table) (value : String) : List Number :=
  rows.filterMap fun r => (r.get value).number?

section Rows

variable {t : Table} {group l : String}

theorem mem_labels : l ∈ labels t group ↔ ∃ r ∈ t, label (r.get group) = l := by
  rw [labels, List.mem_eraseDups, List.mem_map]

theorem mem_members {r : Record} : r ∈ members t group l ↔ r ∈ t ∧ label (r.get group) = l := by
  simp [members]

theorem nodup_labels (t : Table) (group : String) : (labels t group).Nodup := nodup_eraseDups _

theorem members_eq_nil (h : l ∉ labels t group) : members t group l = [] := by
  rw [members, List.filter_eq_nil_iff]
  intro r hr hl
  exact h (mem_labels.mpr ⟨r, hr, by simpa using hl⟩)

theorem labels_concat (t : Table) (r : Record) (group : String) :
    labels (t ++ [r]) group =
      if label (r.get group) ∈ labels t group then labels t group
      else labels t group ++ [label (r.get group)] := by
  rw [labels, List.map_append, List.map_singleton, eraseDups_concat, ← labels]
  simp only [labels, List.mem_eraseDups]

theorem members_concat (t : Table) (r : Record) (group l : String) :
    members (t ++ [r]) group l =
      if l = label (r.get group) then members t group l ++ [r] else members t group l := by
  rw [members, List.filter_append, ← members]
  by_cases h : l = label (r.get group)
  · simp [h]
  · simp [h, Ne.symm h]

/-- Every row is in one group. -/
theorem sum_length_members (t : Table) (group : String) :
    ((labels t group).map fun l => (members t group l).length).sum = t.length := by
  have hperm : (labels t group).Perm (t.map fun r => label (r.get group)).dedup := by
    refine (List.perm_ext_iff_of_nodup (nodup_labels t group) (List.nodup_dedup _)).mpr fun l => ?_
    rw [labels, List.mem_eraseDups, List.mem_dedup]
  have hcount (l : String) :
      (members t group l).length = (t.map fun r => label (r.get group)).count l := by
    rw [members, ← List.countP_eq_length_filter, List.count_eq_countP, List.countP_map]
    rfl
  simp only [hcount]
  rw [(hperm.map _).sum_eq, List.sum_map_count_dedup_eq_length, List.length_map]

end Rows

/-! ## The pass over the rows -/

def tally (rows : Table) (value : String) : Tally :=
  ⟨rows.length, (numbers rows value).reverse⟩

theorem tally_concat (rows : Table) (r : Record) (value : String) :
    tally (rows ++ [r]) value = (tally rows value).add (r.get value).number? := by
  cases h : (r.get value).number? <;> simp [tally, Tally.add, numbers, h]

/-- The tally of each label, counted from its own rows only. -/
def separateTallies (t : Table) (group value : String) : List (String × Tally) :=
  (labels t group).map fun l => (l, tally (members t group l) value)

section Pass

variable (t : Table) (group value : String)

/-- A label that is not there yet stands for a group without rows. -/
theorem getD_lookup_separateTallies (l : String) :
    ((separateTallies t group value).lookup l).getD {} = tally (members t group l) value := by
  rw [separateTallies]
  by_cases h : l ∈ labels t group
  · rw [List.lookup_graph _ h]
    rfl
  · rw [members_eq_nil h, List.lookup_eq_none_iff.mpr]
    · rfl
    · intro p hp
      obtain ⟨k, hk, rfl⟩ := List.mem_map.mp hp
      have hne : l ≠ k := fun hl => h (hl ▸ hk)
      simpa using hne

/-- One more row is counted in its own group, and the other groups stay as they are. -/
theorem count_separateTallies (r : Record) :
    count group value (separateTallies t group value) r =
      separateTallies (t ++ [r]) group value := by
  rw [count, getD_lookup_separateTallies, separateTallies, separateTallies,
    putPair_map (nodup_labels t group), labels_concat]
  refine List.map_congr_left fun l _ => ?_
  rw [members_concat]
  split
  · rename_i hl
    rw [← hl, tally_concat]
  · rfl

/-- The pass counts each group as if it were alone. -/
theorem tallies_eq : tallies t group value = separateTallies t group value := by
  induction t using List.reverseRecOn with
  | nil => rfl
  | append_singleton t r ih =>
      rw [tallies, List.foldl_concat, ← tallies, ih, count_separateTallies]

/-- One record for each label, made from the rows with this label. -/
theorem aggregate_eq (f : AggregateFunction) :
    t.aggregate group value f =
      (labels t group).map fun l =>
        groupRecord group value f l (tally (members t group l) value) := by
  rw [Table.aggregate, tallies_eq, separateTallies, List.map_map]
  rfl

end Pass

/-! ## The record of a group -/

/-- The result for the rows of a group. -/
def result (value : String) (rows : Table) (f : AggregateFunction) : Cell :=
  resultCell (f.reduce rows.length (numbers rows value))

theorem groupRecord_tally (group value : String) (f : AggregateFunction) (l : String)
    (rows : Table) :
    groupRecord group value f l (tally rows value) =
      (Record.empty.put group (.text l)).put (f.column value) (result value rows f) := by
  rw [groupRecord, tally, List.reverse_reverse, result]

section Cells

variable {group value : String} {f : AggregateFunction} (l : String) (rows : Table)

@[simp] theorem get_groupRecord_column :
    (groupRecord group value f l (tally rows value)).get (f.column value) =
      result value rows f := by
  rw [groupRecord_tally, Record.get_put_self]

theorem get_groupRecord_group (h : group ≠ f.column value) :
    (groupRecord group value f l (tally rows value)).get group = .text l := by
  rw [groupRecord_tally, Record.get_put_of_ne _ h, Record.get_put_self]

theorem cells_groupRecord (h : group ≠ f.column value) :
    (groupRecord group value f l (tally rows value)).cells =
      [(group, .text l), (f.column value, result value rows f)] := by
  have hkeys : f.column value ∉ (Record.empty.put group (.text l)).keys := by
    simpa [Record.keys_put] using h.symm
  rw [groupRecord_tally, Record.cells_put_of_not_mem hkeys]
  rfl

/-- The result takes the place of a label that is under its name. -/
theorem cells_groupRecord_of_eq (h : group = f.column value) :
    (groupRecord group value f l (tally rows value)).cells =
      [(group, result value rows f)] := by
  rw [groupRecord_tally, ← h]
  simp [Record.put, Record.empty, putPair]

end Cells

end Tabular.Aggregate
