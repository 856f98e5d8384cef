import Mathlib.Data.Int.Order.Basic
import Mathlib.Order.Compare
import Tabular.Proofs.Number.Denoted
import Tabular.Proofs.Table.Neighbours

set_option autoImplicit false

/-! # Columns with an order

A comparison orders a list of items when it reverses and goes over from one item to the next
(`Sorting.PreorderOn`). The rows of a table are ordered by a column of one kind, whose cells all
stand for numbers or all do not (`Table.OneKind`): numbers in cells are never NaN, and so have an
order of their own; other cells have it from the collation, of which it is asked on the texts of
the column only (`Table.preorderOn_rowOrder`).
-/

namespace Tabular

namespace Sorting

variable {α : Type} {cmp : α → α → Ordering}

/-- A total preorder on these items: the comparison reverses when it is made the other way round,
and "not greater" is transitive. -/
structure PreorderOn (cmp : α → α → Ordering) (items : List α) : Prop where
  swap : ∀ a ∈ items, ∀ b ∈ items, cmp a b = (cmp b a).swap
  trans : ∀ a ∈ items, ∀ b ∈ items, ∀ c ∈ items,
    cmp a b ≠ .gt → cmp b c ≠ .gt → cmp a c ≠ .gt

instance (cmp : α → α → Ordering) (items : List α) : Decidable (PreorderOn cmp items) :=
  decidable_of_iff
    ((∀ a ∈ items, ∀ b ∈ items, cmp a b = (cmp b a).swap) ∧
      ∀ a ∈ items, ∀ b ∈ items, ∀ c ∈ items,
        cmp a b ≠ .gt → cmp b c ≠ .gt → cmp a c ≠ .gt)
    ⟨fun h => ⟨h.1, h.2⟩, fun h => ⟨h.swap, h.trans⟩⟩

namespace PreorderOn

variable {items part : List α} {a b : α}

theorem mono (h : PreorderOn cmp items) (hs : part ⊆ items) : PreorderOn cmp part where
  swap a ha b hb := h.swap a (hs ha) b (hs hb)
  trans a ha b hb c hc := h.trans a (hs ha) b (hs hb) c (hs hc)

theorem congr {cmp' : α → α → Ordering} (h : PreorderOn cmp items)
    (heq : ∀ a ∈ items, ∀ b ∈ items, cmp' a b = cmp a b) : PreorderOn cmp' items where
  swap a ha b hb := by
    rw [heq a ha b hb, heq b hb a ha]
    exact h.swap a ha b hb
  trans a ha b hb c hc := by
    rw [heq a ha b hb, heq b hb c hc, heq a ha c hc]
    exact h.trans a ha b hb c hc

/-- Items are ordered by what is read off them. -/
theorem comap {β : Type} {f : β → α} {sources : List β} (h : PreorderOn cmp (sources.map f)) :
    PreorderOn (fun s s' => cmp (f s) (f s')) sources where
  swap _ hs _ hs' := h.swap _ (List.mem_map_of_mem hs) _ (List.mem_map_of_mem hs')
  trans _ hs _ hs' _ hs'' :=
    h.trans _ (List.mem_map_of_mem hs) _ (List.mem_map_of_mem hs') _ (List.mem_map_of_mem hs'')

theorem eq_self (h : PreorderOn cmp items) (ha : a ∈ items) : cmp a a = .eq := by
  have hs := h.swap a ha a ha
  cases hc : cmp a a <;> simp_all

/-- Not greater one way is not less the other way. -/
theorem ne_gt_iff (h : PreorderOn cmp items) (ha : a ∈ items) (hb : b ∈ items) :
    cmp a b ≠ .gt ↔ cmp b a ≠ .lt := by
  rw [h.swap a ha b hb]
  cases cmp b a <;> simp

theorem eq_of_ne_gt (h : PreorderOn cmp items) (ha : a ∈ items) (hb : b ∈ items)
    (hab : cmp a b ≠ .gt) (hba : cmp b a ≠ .gt) : cmp a b = .eq := by
  have hne := (h.ne_gt_iff hb ha).mp hba
  cases hc : cmp a b <;> simp_all

end PreorderOn

theorem preorderOn_of_transCmp [Std.TransCmp cmp] (items : List α) : PreorderOn cmp items where
  swap _ _ _ _ := Std.OrientedCmp.eq_swap
  trans _ _ _ _ _ _ hab hbc := Ordering.isLE_iff_ne_gt.mp
    (Std.TransCmp.isLE_trans (Ordering.isLE_iff_ne_gt.mpr hab) (Ordering.isLE_iff_ne_gt.mpr hbc))

end Sorting

/-- On these texts, a collation is an order. -/
def Collate.PreorderOn (collate : Collate) (texts : List String) : Prop :=
  Sorting.PreorderOn (fun s s' => collate s.toList s'.toList) texts

instance (collate : Collate) (texts : List String) : Decidable (collate.PreorderOn texts) :=
  inferInstanceAs (Decidable (Sorting.PreorderOn _ texts))

/-! ## Numbers and cells -/

theorem Number.order_eq_compare {x y : Number} (hx : x.isNan = false) (hy : y.isNan = false) :
    x.order y = compare x.key y.key := by
  simp only [Number.order, Number.lt, hx, hy, Bool.not_false, Bool.true_and, decide_eq_true_eq]
  rcases lt_trichotomy x.key y.key with h | h | h
  · simp [h, compare_lt_iff_lt.mpr h]
  · simp [h]
  · simp [h, h.le, compare_gt_iff_gt.mpr h]

theorem Cell.isNan_of_number? {c : Cell} {x : Number} (h : c.number? = some x) :
    x.isNan = false := by
  cases c with
  | empty => cases h
  | number y =>
      simp only [Cell.number?] at h
      split at h
      · cases h
      · rename_i hnan
        cases h
        simpa using hnan
  | text s => exact Number.isNan_of_ofText? h

/-! ## Tables -/

namespace Table

def rowOrder (collate : Collate) (column : String) (r r' : Record) : Ordering :=
  (r.get column).sortKey.order collate (r'.get column).sortKey

/-- The cells of a column all stand for numbers, or none does. -/
def OneKind (t : Table) (column : String) : Prop :=
  (∀ r ∈ t, (r.get column).number?.isSome = true) ∨ ∀ r ∈ t, (r.get column).number? = none

instance (t : Table) (column : String) : Decidable (t.OneKind column) :=
  inferInstanceAs (Decidable (_ ∨ _))

/-- Where a cell that stands for a number has its place in the order. -/
def place (column : String) (r : Record) : Int := ((r.get column).number?.getD .zero).key

theorem rowOrder_of_numbers {collate : Collate} {column : String} {r r' : Record}
    (hr : (r.get column).number?.isSome = true) (hr' : (r'.get column).number?.isSome = true) :
    rowOrder collate column r r' = compare (place column r) (place column r') := by
  obtain ⟨x, hx⟩ := Option.isSome_iff_exists.mp hr
  obtain ⟨y, hy⟩ := Option.isSome_iff_exists.mp hr'
  simp only [rowOrder, SortKey.order, Cell.sortKey, place, hx, hy, Option.getD_some]
  exact Number.order_eq_compare (Cell.isNan_of_number? hx) (Cell.isNan_of_number? hy)

theorem rowOrder_of_no_number {collate : Collate} {column : String} {r : Record}
    (hr : (r.get column).number? = none) (r' : Record) :
    rowOrder collate column r r' =
      collate (r.text column).toList (r'.text column).toList := by
  simp only [rowOrder, SortKey.order, Cell.sortKey, hr]
  rfl

/-- A column of one kind orders the rows. Where it holds no numbers, the collation has to order
its texts. -/
theorem preorderOn_rowOrder {collate : Collate} {t : Table} {column : String}
    (kind : t.OneKind column)
    (texts : (∀ r ∈ t, (r.get column).number? = none) →
      collate.PreorderOn (t.columnText column)) :
    Sorting.PreorderOn (rowOrder collate column) t := by
  rcases kind with hnumbers | hnone
  · have hplaces : Sorting.PreorderOn compare (t.map (place column)) :=
      Sorting.preorderOn_of_transCmp _
    refine hplaces.comap.congr ?_
    intro r hr r' hr'
    exact rowOrder_of_numbers (hnumbers r hr) (hnumbers r' hr')
  · refine (Sorting.PreorderOn.comap (texts hnone)).congr ?_
    intro r hr r' _
    exact rowOrder_of_no_number (hnone r hr) r'

end Table

end Tabular
