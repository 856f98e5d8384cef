import Mathlib.Data.List.Basic
import Mathlib.Data.List.Induction

set_option autoImplicit false

/-! # Items in the order in which they first appear

The different items of a list, `List.eraseDups`, stand in the order of their first places in the
list (`pairwise_idxOf_eraseDups`), and what is read later comes behind them, so that their own
places stay (`idxOf_eraseDups_append`).
-/

namespace Tabular

section Items

variable {α : Type} [BEq α] [LawfulBEq α]

theorem eraseDups_concat (items : List α) (a : α) :
    (items ++ [a]).eraseDups =
      if a ∈ items then items.eraseDups else items.eraseDups ++ [a] := by
  rw [List.eraseDups_append]
  split
  · rename_i h
    simp [List.removeAll, h]
  · rename_i h
    simp [List.removeAll, h, List.eraseDups_cons]

theorem idxOf_eraseDups_append {items : List α} {a : α} (h : a ∈ items) (more : List α) :
    (items ++ more).eraseDups.idxOf a = items.eraseDups.idxOf a := by
  rw [List.eraseDups_append, List.idxOf_append_of_mem (List.mem_eraseDups.mpr h)]

theorem pairwise_idxOf_eraseDups (items : List α) :
    items.eraseDups.Pairwise fun a b => items.idxOf a < items.idxOf b := by
  induction items using List.reverseRecOn with
  | nil => simp
  | append_singleton items x ih =>
      have hkept : items.eraseDups.Pairwise fun a b =>
          (items ++ [x]).idxOf a < (items ++ [x]).idxOf b := by
        refine ih.imp_of_mem fun ha hb hlt => ?_
        rw [List.idxOf_append_of_mem (List.mem_eraseDups.mp ha),
          List.idxOf_append_of_mem (List.mem_eraseDups.mp hb)]
        exact hlt
      rw [eraseDups_concat]
      split
      · exact hkept
      · rename_i hx
        refine List.pairwise_append.mpr ⟨hkept, List.pairwise_singleton _ x, ?_⟩
        intro a ha b hb
        obtain rfl := List.mem_singleton.mp hb
        have ha : a ∈ items := List.mem_eraseDups.mp ha
        have hlt : items.idxOf a < items.length := List.idxOf_lt_length_of_mem ha
        -- The new item stands behind the whole list, every other one in it.
        rw [List.idxOf_append_of_mem ha, List.idxOf_append_of_notMem hx]
        omega

theorem nodup_eraseDups (items : List α) : items.eraseDups.Nodup := by
  refine (pairwise_idxOf_eraseDups items).imp ?_
  rintro a b hlt rfl
  exact Nat.lt_irrefl _ hlt

end Items

section Columns

variable {α β γ : Type} [BEq β] [LawfulBEq β] [BEq γ] [LawfulBEq γ]

/-- Two values are first found at the same place of two columns if the same rows hold them. -/
theorem idxOf_map_eq {rows : List α} {f : α → β} {g : α → γ} {b : β} {c : γ}
    (h : ∀ a ∈ rows, f a = b ↔ g a = c) : (rows.map f).idxOf b = (rows.map g).idxOf c := by
  induction rows with
  | nil => rfl
  | cons a rows ih =>
      rw [List.map_cons, List.map_cons, List.idxOf_cons, List.idxOf_cons,
        ih fun a' ha' => h a' (by simp [ha'])]
      have hhead : (f a == b) = (g a == c) := by
        rw [Bool.eq_iff_iff, beq_iff_eq, beq_iff_eq]
        exact h a (by simp)
      rw [hhead]

end Columns

end Tabular
