import Mathlib.Data.List.Forall2
import Mathlib.Data.List.Induction
import Tabular.Proofs.Aggregate.Groups
import Tabular.Proofs.Table.Keys
import Tabular.Proofs.Table.Ordered

set_option autoImplicit false

/-! # Results of groups

What the rows of a group call for as their result is said apart from how it is computed
(`Reduces`), and holds of every record of an aggregation (`aggregate_reduces_groups`). A count, a
least and a greatest number are fixed by it up to the sign of zero, in whatever order the rows
come, so that these three functions do not see the order of a table (`aggregate_ignores_order`).
A sum is rounded after each summand, so that its order counts.
-/

namespace Tabular.Aggregate

/-- The result that the rows of a group call for. A sum is taken from left to right and starts at
negative zero; a least number is one of the numbers and none of them is less, and a greatest one
alike. -/
inductive Reduces (value : String) (rows : Table) : AggregateFunction → Cell → Prop
  | count : Reduces value rows .count (.number (.ofNat rows.length))
  | sum : Reduces value rows .sum (.number ((numbers rows value).foldl Number.add .negativeZero))
  | average (h : numbers rows value ≠ []) :
      Reduces value rows .average (.number
        (((numbers rows value).foldl Number.add .negativeZero).div
          (.ofNat (numbers rows value).length)))
  | averageOfNone (h : numbers rows value = []) : Reduces value rows .average (.number .zero)
  | min {x : Number} (hx : x ∈ numbers rows value)
      (h : ∀ y ∈ numbers rows value, y.lt x = false) : Reduces value rows .min (.number x)
  | minOfNone (h : numbers rows value = []) : Reduces value rows .min .empty
  | max {x : Number} (hx : x ∈ numbers rows value)
      (h : ∀ y ∈ numbers rows value, x.lt y = false) : Reduces value rows .max (.number x)
  | maxOfNone (h : numbers rows value = []) : Reduces value rows .max .empty

/-! ## Least and greatest numbers -/

/-- When an item is given up for one that is before it, no item is before the one that is kept at
the end. -/
theorem foldl_pick {α : Type} (before : α → α → Bool) (hirrefl : ∀ a, before a a = false)
    (htrans : ∀ {a b c}, before a b = true → before b c = true → before a c = true)
    (first : α) (rest : List α) :
    rest.foldl (fun kept a => if before a kept then a else kept) first ∈ first :: rest ∧
      ∀ a ∈ first :: rest,
        before a (rest.foldl (fun kept a => if before a kept then a else kept) first) = false := by
  -- The item kept last is compared with all before it, so the list grows at its end.
  induction rest using List.reverseRecOn with
  | nil => simp [hirrefl]
  | append_singleton rest b ih =>
      obtain ⟨hmem, hleast⟩ := ih
      rw [List.foldl_concat, ← List.cons_append]
      generalize rest.foldl (fun kept a => if before a kept then a else kept) first = kept at *
      by_cases hb : before b kept = true
      · rw [if_pos hb]
        refine ⟨by simp, fun a ha => ?_⟩
        rcases List.mem_append.mp ha with ha | ha
        · -- An item before the new one would be before the one given up.
          cases hab : before a b with
          | false => rfl
          | true => exact absurd (htrans hab hb) (by simp [hleast a ha])
        · obtain rfl := List.mem_singleton.mp ha
          exact hirrefl a
      · rw [if_neg hb]
        refine ⟨List.mem_append_left _ hmem, fun a ha => ?_⟩
        rcases List.mem_append.mp ha with ha | ha
        · exact hleast a ha
        · obtain rfl := List.mem_singleton.mp ha
          simpa using hb

theorem foldl_min (first : Number) (rest : List Number) :
    rest.foldl Number.min first ∈ first :: rest ∧
      ∀ y ∈ first :: rest, y.lt (rest.foldl Number.min first) = false :=
  foldl_pick Number.lt Number.lt_irrefl Number.lt_trans first rest

theorem foldl_max (first : Number) (rest : List Number) :
    rest.foldl Number.max first ∈ first :: rest ∧
      ∀ y ∈ first :: rest, (rest.foldl Number.max first).lt y = false :=
  -- The greater number is kept, so that "before" is "greater" here.
  foldl_pick (fun x y : Number => y.lt x) Number.lt_irrefl
    (fun hxy hyz => Number.lt_trans hyz hxy) first rest

/-- The cell that is computed for a group is the one its rows call for. -/
theorem reduces_result (value : String) (rows : Table) (f : AggregateFunction) :
    Reduces value rows f (result value rows f) := by
  cases f with
  | count => exact .count
  | sum => exact .sum
  | average =>
      cases h : numbers rows value with
      | nil =>
          rw [result, h]
          exact .averageOfNone h
      | cons first rest =>
          have hne : numbers rows value ≠ [] := by simp [h]
          have haverage := Reduces.average hne
          rw [h] at haverage
          rw [result, h]
          exact haverage
  | min =>
      cases h : numbers rows value with
      | nil =>
          rw [result, h]
          exact .minOfNone h
      | cons first rest =>
          obtain ⟨hmem, hleast⟩ := foldl_min first rest
          rw [← h] at hmem hleast
          rw [result, h]
          exact .min hmem hleast
  | max =>
      cases h : numbers rows value with
      | nil =>
          rw [result, h]
          exact .maxOfNone h
      | cons first rest =>
          obtain ⟨hmem, hgreatest⟩ := foldl_max first rest
          rw [← h] at hmem hgreatest
          rw [result, h]
          exact .max hmem hgreatest

/-! ## Results of an aggregation -/

section Results

variable (t : Table) (group value : String)

/-- A fact about the records of the groups holds along the aggregation. -/
theorem forall₂_aggregate {f : AggregateFunction} {related : String → Record → Prop}
    (h : ∀ l, related l (groupRecord group value f l (tally (members t group l) value))) :
    List.Forall₂ related (labels t group) (t.aggregate group value f) := by
  rw [aggregate_eq, List.forall₂_map_right_iff]
  exact List.forall₂_same.mpr fun l _ => h l

theorem reduces_aggregate (f : AggregateFunction) :
    List.Forall₂
      (fun l record => Reduces value (members t group l) f (record.get (f.column value)))
      (labels t group) (t.aggregate group value f) := by
  refine forall₂_aggregate t group value fun l => ?_
  rw [get_groupRecord_column]
  exact reduces_result value _ f

/-- There is one record for each label, in the order in which labels first appear, with the
result that the rows with this label call for. The counts add up to the number of rows. -/
theorem aggregate_reduces_groups (f : AggregateFunction) :
    List.Forall₂
      (fun l record => Reduces value (members t group l) f (record.get (f.column value)))
      (labels t group) (t.aggregate group value f) ∧
    ∃ counts : List Nat, counts.sum = t.length ∧
      (t.aggregate group value .count).map
          (fun record => record.get (AggregateFunction.count.column value)) =
        counts.map fun n => .number (.ofNat n) := by
  refine ⟨reduces_aggregate t group value f, _, sum_length_members t group, ?_⟩
  rw [aggregate_eq, List.map_map, List.map_map]
  refine List.map_congr_left fun l _ => ?_
  exact get_groupRecord_column l _

end Results

/-! ## Rows in another order -/

theorem isNan_of_mem_numbers {rows : Table} {value : String} {x : Number}
    (h : x ∈ numbers rows value) : x.isNan = false := by
  obtain ⟨r, -, hr⟩ := List.mem_filterMap.mp h
  exact Cell.isNan_of_number? hr

section Order

variable {t u : Table}

theorem labels_perm (h : t.Perm u) (group : String) :
    (labels t group).Perm (labels u group) := by
  refine (List.perm_ext_iff_of_nodup (nodup_labels t group) (nodup_labels u group)).mpr fun l => ?_
  simp only [mem_labels, h.mem_iff]

theorem members_perm (h : t.Perm u) (group l : String) :
    (members t group l).Perm (members u group l) :=
  h.filter _

theorem numbers_perm (h : t.Perm u) (value : String) : (numbers t value).Perm (numbers u value) :=
  h.filterMap _

end Order

/-- A count, a least and a greatest number are fixed by the rows of the group, in any order. -/
theorem Reduces.alike {value : String} {rows rows' : Table} (hp : rows.Perm rows')
    {f : AggregateFunction} (hf : f ∈ [.count, .min, .max]) {c c' : Cell}
    (h : Reduces value rows f c) (h' : Reduces value rows' f c') : c.Alike c' := by
  have hmem (x : Number) : x ∈ numbers rows value ↔ x ∈ numbers rows' value :=
    (numbers_perm hp value).mem_iff
  -- A group without numbers on one side has none on the other, since the sides have the same ones.
  cases h with
  | count =>
      cases h'
      rw [hp.length_eq]
      exact Number.same_self (Number.isNan_ofRank _ _)
  | sum | average | averageOfNone => simp at hf
  | @min x hx hleast =>
      cases h' with
      | @min x' hx' hleast' =>
          exact Number.same_of_not_lt (isNan_of_mem_numbers hx) (isNan_of_mem_numbers hx')
            (hleast' x ((hmem x).mp hx)) (hleast x' ((hmem x').mpr hx'))
      | minOfNone hnone => exact absurd ((hmem x).mp hx) (by simp [hnone])
  | minOfNone hnone =>
      cases h' with
      | @min x' hx' _ => exact absurd ((hmem x').mpr hx') (by simp [hnone])
      | minOfNone => exact rfl
  | @max x hx hgreatest =>
      cases h' with
      | @max x' hx' hgreatest' =>
          exact Number.same_of_not_lt (isNan_of_mem_numbers hx) (isNan_of_mem_numbers hx')
            (hgreatest x' ((hmem x').mpr hx')) (hgreatest' x ((hmem x).mp hx))
      | maxOfNone hnone => exact absurd ((hmem x).mp hx) (by simp [hnone])
  | maxOfNone hnone =>
      cases h' with
      | @max x' hx' _ => exact absurd ((hmem x').mpr hx') (by simp [hnone])
      | maxOfNone => exact rfl

/-- The same groups with the same results, in whatever order. -/
structure SameGroups (group column : String) (a b : Table) : Prop where
  labels : (a.map fun record => record.get group).Perm (b.map fun record => record.get group)
  results : ∀ r ∈ a, ∀ s ∈ b, r.get group = s.get group → (r.get column).Alike (s.get column)
  reordered : ∃ c : Table, c.Perm b ∧ a.Alike c

section Order

variable {t u : Table} {group value : String} {f : AggregateFunction}
  (hf : f ∈ [.count, .min, .max]) (hne : group ≠ f.column value) (h : t.Perm u)
include hf h

theorem result_alike (l : String) :
    (result value (members t group l) f).Alike (result value (members u group l) f) :=
  (reduces_result value _ f).alike (members_perm h group l) hf (reduces_result value _ f)

include hne

theorem groupRecord_alike (l : String) :
    (groupRecord group value f l (tally (members t group l) value)).Alike
      (groupRecord group value f l (tally (members u group l) value)) := by
  rw [Record.Alike, cells_groupRecord _ _ hne, cells_groupRecord _ _ hne]
  exact .cons ⟨rfl, rfl⟩ (.cons ⟨rfl, result_alike hf h l⟩ .nil)

theorem sameGroups_of_perm :
    SameGroups group (f.column value) (t.aggregate group value f) (u.aggregate group value f) := by
  have hlabels := labels_perm h group
  rw [aggregate_eq, aggregate_eq]
  constructor
  · simp only [List.map_map, Function.comp_def, get_groupRecord_group _ _ hne]
    exact hlabels.map _
  · intro r hr s hs hsame
    obtain ⟨l, -, rfl⟩ := List.mem_map.mp hr
    obtain ⟨l', -, rfl⟩ := List.mem_map.mp hs
    rw [get_groupRecord_group _ _ hne, get_groupRecord_group _ _ hne] at hsame
    cases hsame
    rw [get_groupRecord_column, get_groupRecord_column]
    exact result_alike hf h l
  · refine ⟨_, hlabels.map _, ?_⟩
    rw [Table.Alike, List.forall₂_map_left_iff, List.forall₂_map_right_iff]
    exact List.forall₂_same.mpr fun l _ => groupRecord_alike hf hne h l

end Order

/-- Counts, least and greatest numbers of groups do not depend on the order of the rows, and so
not on a sort of the table in front of the aggregation. -/
theorem aggregate_ignores_order (t : Table) {group value : String} {f : AggregateFunction}
    (hf : f ∈ [.count, .min, .max]) (hne : group ≠ f.column value) :
    (∀ u : Table, t.Perm u →
      SameGroups group (f.column value) (t.aggregate group value f) (u.aggregate group value f)) ∧
    ∀ column, SameGroups group (f.column value) (t.aggregate group value f)
      ((t.sort column).aggregate group value f) :=
  ⟨fun _ h => sameGroups_of_perm hf hne h,
    fun column => sameGroups_of_perm hf hne (t.sort_perm column).symm⟩

/-- The least number of `x` is a zero of either sign, and NaN is no number of the blank cells. -/
theorem aggregate_ignores_order_of_zeros :
    let t : Table := [
      Record.ofList [("g", .text "x"), ("v", .number .zero)],
      Record.ofList [("v", .text "5 kg")],
      Record.ofList [("g", .text "x"), ("v", .number .negativeZero)],
      Record.ofList [("g", .empty), ("v", .number .nan)]]
    let column := AggregateFunction.min.column "v"
    AggregateFunction.min ∈ [.count, .min, .max] ∧ "g" ≠ column ∧ t.Perm t.reverse ∧
      SameGroups "g" column (t.aggregate "g" "v" .min)
        (Table.aggregate t.reverse "g" "v" .min) ∧
      SameGroups "g" column (t.aggregate "g" "v" .min)
        ((t.sort "v").aggregate "g" "v" .min) := by
  intro t column
  have hf : AggregateFunction.min ∈ [.count, .min, .max] := by decide
  have hne : "g" ≠ column := by decide
  have hp : t.Perm t.reverse := t.reverse_perm.symm
  have h := aggregate_ignores_order t hf hne
  exact ⟨hf, hne, hp, h.1 t.reverse hp, h.2 "v"⟩

-- A sum depends on the order: ones that are added to `2^53` one by one are lost.
example :
    let ones : List Number := [.ofNat 1, .ofNat 1]
    Number.sum (.ofNat (2 ^ 53) :: ones) = .ofNat (2 ^ 53) ∧
      Number.sum (ones ++ [.ofNat (2 ^ 53)]) = .ofNat (2 ^ 53 + 2) ∧
      Number.ofNat (2 ^ 53 + 2) ≠ .ofNat (2 ^ 53) := by
  decide +kernel

end Tabular.Aggregate
