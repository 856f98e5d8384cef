import Mathlib.Data.List.Sort
import Tabular.Filter
import Tabular.Proofs.Table.Stable

set_option autoImplicit false

/-! # The stable arrangement

Where a comparison orders the items of a list, one arrangement of them is ascending and keeps
equal items in their order, and no other is (`Sorting.Arrangement.unique`). The merge sort finds
it, and so does an insertion sort; that both take the items in quite different parts does not show
in the result. Keeping some items of the arrangement gives the arrangement of the items kept.

A table is sorted into the stable arrangement of its rows by every column of one kind
(`Table.sortBy_is_the_arrangement`), and filtering it before or after makes no difference
(`Table.sortBy_filterRows`).
-/

namespace Tabular

namespace Sorting

variable {α : Type} {cmp : α → α → Ordering} {items out : List α}

abbrev lessOf (cmp : α → α → Ordering) (a b : α) : Bool := cmp a b = .lt

/-- The items that compare equal to one. -/
abbrev equalTo (cmp : α → α → Ordering) (a : α) (items : List α) : List α :=
  items.filter fun b => cmp a b = .eq

/-- The items in ascending order, equal ones in the order in which they stand in the list. -/
structure Arrangement (cmp : α → α → Ordering) (items out : List α) : Prop where
  perm : out.Perm items
  ascending : out.Pairwise fun a b => cmp a b ≠ .gt
  stable : ∀ a ∈ items, equalTo cmp a out = equalTo cmp a items

/-! ## Only one list is the arrangement -/

theorem mem_of_equalTo_eq {u v : List α} {a : α} (h : PreorderOn cmp items) (ha : a ∈ items)
    (hau : a ∈ u) (heq : equalTo cmp a u = equalTo cmp a v) : a ∈ v := by
  have hmem : a ∈ equalTo cmp a u := List.mem_filter.mpr ⟨hau, by simp [h.eq_self ha]⟩
  rw [heq] at hmem
  exact (List.mem_filter.mp hmem).1

theorem first_ne_gt {a b : α} {rest : List α} (h : PreorderOn cmp items) (ha : a ∈ items)
    (hp : (a :: rest).Pairwise fun a b => cmp a b ≠ .gt) (hb : b ∈ a :: rest) :
    cmp a b ≠ .gt := by
  rcases List.mem_cons.mp hb with rfl | hb
  · simp [h.eq_self ha]
  · exact List.rel_of_pairwise_cons hp hb

/-- Two ascending lists with the same equal items begin with the same item. -/
theorem first_eq {a b : α} {u v : List α} (h : PreorderOn cmp items) (ha : a ∈ items)
    (hb : b ∈ items) (hua : (a :: u).Pairwise fun a b => cmp a b ≠ .gt)
    (hva : (b :: v).Pairwise fun a b => cmp a b ≠ .gt)
    (heqa : equalTo cmp a (a :: u) = equalTo cmp a (b :: v))
    (heqb : equalTo cmp b (a :: u) = equalTo cmp b (b :: v)) : a = b := by
  -- Each of the two is found in the other list, and so they compare equal.
  have hav : a ∈ b :: v := mem_of_equalTo_eq h ha (by simp) heqa
  have hbu : b ∈ a :: u := mem_of_equalTo_eq h hb (by simp) heqb.symm
  have hab : cmp a b = .eq :=
    h.eq_of_ne_gt ha hb (first_ne_gt h ha hua hbu) (first_ne_gt h hb hva hav)
  simp only [equalTo, List.filter_cons, h.eq_self ha, hab, decide_true, if_true] at heqa
  exact (List.cons.inj heqa).1

theorem equalTo_tail {a c : α} {u v : List α}
    (heq : equalTo cmp c (a :: u) = equalTo cmp c (a :: v)) :
    equalTo cmp c u = equalTo cmp c v := by
  simp only [equalTo, List.filter_cons] at heq
  split at heq
  · exact (List.cons.inj heq).2
  · exact heq

/-- Ascending lists with the same equal items everywhere are the same. -/
theorem eq_of_ascending {u v : List α} (h : PreorderOn cmp items) (hu : u ⊆ items) (hv : v ⊆ items)
    (hua : u.Pairwise fun a b => cmp a b ≠ .gt) (hva : v.Pairwise fun a b => cmp a b ≠ .gt)
    (heq : ∀ a ∈ items, equalTo cmp a u = equalTo cmp a v) : u = v := by
  induction u generalizing v with
  | nil =>
      refine (List.eq_nil_iff_forall_not_mem.mpr fun b hb => ?_).symm
      have hmem : b ∈ [] := mem_of_equalTo_eq h (hv hb) hb (heq b (hv hb)).symm
      cases hmem
  | cons a u ih =>
      have ha : a ∈ items := hu (by simp)
      cases v with
      | nil => cases mem_of_equalTo_eq h ha (by simp) (heq a ha)
      | cons b v =>
          have hb : b ∈ items := hv (by simp)
          obtain rfl : a = b := first_eq h ha hb hua hva (heq a ha) (heq b hb)
          have hrest : u = v :=
            ih (fun c hc => hu (by simp [hc])) (fun c hc => hv (by simp [hc])) hua.tail hva.tail
              fun c hc => equalTo_tail (heq c hc)
          rw [hrest]

theorem Arrangement.unique {out' : List α} (h : PreorderOn cmp items)
    (ho : Arrangement cmp items out) (ho' : Arrangement cmp items out') : out = out' :=
  eq_of_ascending h ho.perm.subset ho'.perm.subset ho.ascending ho'.ascending fun a ha =>
    (ho.stable a ha).trans (ho'.stable a ha).symm

/-- The arrangement of some of the items. -/
theorem Arrangement.filter (h : Arrangement cmp items out) (kept : α → Bool) :
    Arrangement cmp (items.filter kept) (out.filter kept) where
  perm := h.perm.filter kept
  ascending := h.ascending.filter kept
  stable a ha := by
    rw [equalTo, equalTo, List.filter_comm, List.filter_comm _ kept items]
    exact congrArg (List.filter kept) (h.stable a (List.mem_filter.mp ha).1)

/-- An arrangement is arranged already. -/
theorem Arrangement.again (h : Arrangement cmp items out) : Arrangement cmp out out :=
  ⟨.refl _, h.ascending, fun _ _ => rfl⟩

/-! ## Finding it -/

/-- No item is less than its neighbour in front, and so none is less than any in front of it. -/
theorem ascending_of_settled (h : PreorderOn cmp items) (hs : out ⊆ items)
    (hsettled : Settled (lessOf cmp) out) : out.Pairwise fun a b => cmp a b ≠ .gt := by
  induction out with
  | nil => exact .nil
  | cons a out ih =>
      have hrest := ih (fun b hb => hs (by simp [hb])) hsettled.tail
      refine .cons (fun b hb => ?_) hrest
      cases out with
      | nil => cases hb
      | cons next out =>
          have ha : a ∈ items := hs (by simp)
          have hnext : next ∈ items := hs (by simp)
          have hle : cmp a next ≠ .gt :=
            (h.ne_gt_iff ha hnext).mpr (of_decide_eq_false hsettled.rel)
          rcases List.mem_cons.mp hb with rfl | hb
          · exact hle
          · exact h.trans a ha next hnext b (hs (by simp [hb])) hle
              (List.rel_of_pairwise_cons hrest hb)

theorem PreorderOn.asymm (h : PreorderOn cmp items) :
    ∀ a ∈ items, ∀ b ∈ items, lessOf cmp b a = true → lessOf cmp a b = false := by
  intro a ha b hb hba
  rw [lessOf, h.swap a ha b hb, of_decide_eq_true hba]
  rfl

/-- Where there is an order, it goes round nowhere, and equal items are not less. -/
theorem PreorderOn.steady (h : PreorderOn cmp items) {x : α} (hx : x ∈ items) :
    Steady (lessOf cmp) (fun b => cmp x b = .eq) items where
  asymm := h.asymm
  tied a ha b hb hxa hxb := by
    have hbx : cmp b x ≠ .gt := by simp [h.swap b hb x hx, of_decide_eq_true hxb]
    have hba := h.trans b hb x hx a ha hbx (by simp [of_decide_eq_true hxa])
    exact decide_eq_false ((h.ne_gt_iff hb ha).mp hba)
  offCycle a ha _ := by
    rintro ⟨p, hp, q, hq, hap, hqp, haq⟩
    have hpq : cmp p q ≠ .gt := (h.ne_gt_iff hp hq).mpr (of_decide_eq_false hqp)
    have hqa : cmp q a ≠ .gt := (h.ne_gt_iff hq ha).mpr (of_decide_eq_false haq)
    exact (h.ne_gt_iff hp ha).mp (h.trans p hp q hq a ha hpq hqa) (of_decide_eq_true hap)

theorem arrangement_mergeSort (h : PreorderOn cmp items) :
    Arrangement cmp items (mergeSort (lessOf cmp) items) where
  perm := mergeSort_perm _ items
  ascending := ascending_of_settled h (mergeSort_perm _ items).subset (settled_mergeSort h.asymm)
  stable _ ha := filter_mergeSort (h.steady ha)

/-! ## Insertion sort -/

/-- Each item is inserted in front of the first one that is not less than it, beginning with the
last item. -/
def insertionSort (cmp : α → α → Ordering) (items : List α) : List α :=
  items.insertionSort fun a b => cmp b a ≠ .lt

/-- An insertion is a merge with one item on the left. -/
theorem orderedInsert_eq_merge (a : α) (items : List α) :
    items.orderedInsert (fun a b => cmp b a ≠ .lt) a = merge (lessOf cmp) [a] items := by
  induction items with
  | nil => simp [merge]
  | cons b items ih =>
      rw [List.orderedInsert_cons, merge, ih]
      by_cases hb : cmp b a = .lt
      · simp [lessOf, hb]
      · simp [lessOf, hb, merge]

theorem insertionSort_cons (a : α) (items : List α) :
    insertionSort cmp (a :: items) = merge (lessOf cmp) [a] (insertionSort cmp items) :=
  orderedInsert_eq_merge a _

theorem insertionSort_perm (items : List α) : (insertionSort cmp items).Perm items :=
  List.perm_insertionSort _ items

/-- What an insertion merges are items of the list. -/
theorem insertion_subset (a : α) (items : List α) :
    [a] ++ insertionSort cmp items ⊆ a :: items :=
  ((insertionSort_perm items).append_left [a]).subset

theorem settled_insertionSort (h : PreorderOn cmp items) :
    Settled (lessOf cmp) (insertionSort cmp items) := by
  induction items with
  | nil => exact .nil
  | cons a items ih =>
      have hsub : [a] ++ insertionSort cmp items ⊆ a :: items := insertion_subset a items
      rw [insertionSort_cons]
      refine settled_merge (fun b hb c hc => h.asymm b (hsub ?_) c (hsub ?_)) (.singleton a)
        (ih (h.mono (List.subset_cons_self a items)))
      · exact List.mem_append_left _ hb
      · exact List.mem_append_right _ hc

theorem filter_insertionSort {selected : α → Bool}
    (h : Steady (lessOf cmp) selected items) :
    (insertionSort cmp items).filter selected = items.filter selected := by
  induction items with
  | nil => rfl
  | cons a items ih =>
      rw [insertionSort_cons, filter_merge (h.mono (insertion_subset a items)) (.singleton a),
        ih (h.mono (List.subset_cons_self a items)), ← List.filter_append]
      rfl

theorem arrangement_insertionSort (h : PreorderOn cmp items) :
    Arrangement cmp items (insertionSort cmp items) where
  perm := insertionSort_perm items
  ascending :=
    ascending_of_settled h (insertionSort_perm items).subset (settled_insertionSort h)
  stable _ ha := filter_insertionSort (h.steady ha)

end Sorting

/-! ## Tables -/

namespace Table

variable {collate : Collate} {t : Table} {column : String}

theorem arrangement_sortBy (h : Sorting.PreorderOn (rowOrder collate column) t) :
    Sorting.Arrangement (rowOrder collate column) t (t.sortBy collate column) := by
  rw [sortBy_eq_mergeSort]
  exact Sorting.arrangement_mergeSort h

/-- By a column of one kind, a table is sorted into the only arrangement of its rows that is
ascending and keeps equal rows in their order. -/
theorem sortBy_is_the_arrangement (collate : Collate) (t : Table) (column : String)
    (kind : t.OneKind column)
    (texts : (∀ r ∈ t, (r.get column).number? = none) →
      collate.PreorderOn (t.columnText column)) :
    (∀ u : Table, Sorting.Arrangement (rowOrder collate column) t u ↔
      u = t.sortBy collate column) ∧
    t.sortBy collate column = Sorting.insertionSort (rowOrder collate column) t ∧
    (t.sortBy collate column).sortBy collate column = t.sortBy collate column := by
  have h := preorderOn_rowOrder kind texts
  have hsorted := arrangement_sortBy h
  refine ⟨fun u => ⟨fun hu => hu.unique h hsorted, ?_⟩, ?_, ?_⟩
  · rintro rfl
    exact hsorted
  · exact hsorted.unique h (Sorting.arrangement_insertionSort h)
  · have h' := h.mono hsorted.perm.subset
    exact (arrangement_sortBy h').unique h' hsorted.again

/-- A column of texts in which a cell holds NaN, which is compared as a text. -/
theorem arrangement_of_words_and_nan :
    let row (c : Cell) (n : String) : Record := (Record.empty.put "k" c).put "n" (.text n)
    let t : Table := [row (.text "b") "1", row (.number .nan) "2", row (.text "B") "3",
      row .empty "4", row (.text "b") "5", row (.text "é") "6"]
    t.OneKind "k" ∧ Collate.PreorderOn Collation.collate (t.columnText "k") ∧
      (t.sort "k").columnText "n" = ["4", "1", "5", "3", "6", "2"] ∧
      Sorting.Arrangement (rowOrder Collation.collate "k") t (t.sort "k") ∧
      t.sort "k" = Sorting.insertionSort (rowOrder Collation.collate "k") t ∧
      (t.sort "k").sort "k" = t.sort "k" := by
  intro row t
  have kind : t.OneKind "k" := by decide +kernel
  have texts : Collate.PreorderOn Collation.collate (t.columnText "k") := by decide +kernel
  obtain ⟨harrangement, hinsertion, hagain⟩ :=
    sortBy_is_the_arrangement Collation.collate t "k" kind fun _ => texts
  exact ⟨kind, texts, by decide +kernel, (harrangement _).2 rfl, hinsertion, hagain⟩

/-- By a column of one kind, the rows that pass a filter are sorted as they are in the sorted
table. -/
theorem sortBy_filterRows (collate : Collate) (t : Table) (column : String)
    (kind : t.OneKind column)
    (texts : (∀ r ∈ t, (r.get column).number? = none) →
      collate.PreorderOn (t.columnText column))
    (key : String) (op : FilterOperator) (value : String) :
    (t.filterRows key op value).sortBy collate column =
      (t.sortBy collate column).filterRows key op value := by
  have h := preorderOn_rowOrder kind texts
  have hkept := h.mono (List.filter_sublist.subset : t.filterRows key op value ⊆ t)
  exact (arrangement_sortBy hkept).unique hkept ((arrangement_sortBy h).filter _)

/-- Numbers with an infinity, one of them at the start of a text. -/
theorem sortBy_filterRows_of_numbers :
    let row (c : Cell) (n : String) : Record := (Record.empty.put "k" c).put "n" (.text n)
    let t : Table := [row (.text "Infinity") "ax", row (.number (.ofNat 10)) "b",
      row (.text "9 kg") "Ax", row (.number .negativeZero) "xa", row (.text "9") "ay"]
    t.OneKind "k" ∧
      ((∀ r ∈ t, (r.get "k").number? = none) →
        Collate.PreorderOn Collation.collate (t.columnText "k")) ∧
      (t.filterRows "n" .startsWith "a").sort "k" = (t.sort "k").filterRows "n" .startsWith "a" ∧
      ((t.sort "k").filterRows "n" .startsWith "a").columnText "n" = ["Ax", "ay", "ax"] := by
  intro row t
  have kind : t.OneKind "k" := by decide +kernel
  have texts : (∀ r ∈ t, (r.get "k").number? = none) →
      Collate.PreorderOn Collation.collate (t.columnText "k") := by decide +kernel
  exact ⟨kind, texts, sortBy_filterRows Collation.collate t "k" kind texts "n" .startsWith "a",
    by decide +kernel⟩

end Table

end Tabular
