import Mathlib.Data.List.Induction
import Tabular.Reshape

set_option autoImplicit false

/-! # The first item of each key

Of a list the first item of each key is kept: these are the items that no item in front of them has
the key of (`firstsBy_eq_filter`). Their keys are different (`pairwise_firstsBy`), and each item has
the key of one of them (`exists_mem_firstsBy`), which stands in front of it if the item itself is not
kept (`firstsBy_covers`).
-/

namespace Tabular

/-! ## First items by position -/

section Places

variable {α κ : Type}

/-- No item in front of this one has its key. -/
def FirstOfKey (key : α → κ) (items : List α) (p : α × Nat) : Prop :=
  ∀ q ∈ items.zipIdx, q.2 < p.2 → key q.1 ≠ key p.1

/-- An item in the list does not see one that is appended behind it. -/
theorem firstOfKey_concat (key : α → κ) (items : List α) (a : α) {p : α × Nat}
    (hp : p.2 ≤ items.length) :
    FirstOfKey key (items ++ [a]) p ↔ FirstOfKey key items p := by
  constructor
  · intro h q hq
    exact h q (by rw [List.zipIdx_append]; exact List.mem_append_left _ hq)
  · intro h q hq hlt
    rw [List.zipIdx_append] at hq
    rcases List.mem_append.mp hq with hq | hq
    · exact h q hq hlt
    · obtain rfl : q = (a, items.length) := by simpa using hq
      have hlt : items.length < p.2 := hlt
      omega

theorem firstOfKey_last (key : α → κ) (items : List α) (a : α) :
    FirstOfKey key items (a, items.length) ↔ key a ∉ items.map key := by
  constructor
  · intro h hmem
    obtain ⟨b, hb, hkey⟩ := List.mem_map.mp hmem
    obtain ⟨i, hi⟩ := List.mem_iff_getElem?.mp hb
    have hlt : i < items.length := (List.getElem?_eq_some_iff.mp hi).1
    exact h (b, i) (List.mk_mem_zipIdx_iff_getElem?.mpr hi) hlt hkey
  · intro h q hq _ hkey
    apply h
    rw [← hkey]
    exact List.mem_map_of_mem (List.fst_mem_of_mem_zipIdx hq)

end Places

/-! ## Items that are kept -/

section Firsts

variable {α β κ : Type} [DecidableEq κ]

theorem firstsBy_map (key : β → κ) (f : α → β) (seen : List κ) (items : List α) :
    (firstsBy (fun a => key (f a)) seen items).map f = firstsBy key seen (items.map f) := by
  induction items generalizing seen with
  | nil => rfl
  | cons a items ih =>
      rw [firstsBy, List.map_cons, firstsBy]
      split
      · exact ih seen
      · rw [List.map_cons, ih]

/-- The key of an item that is left out has been seen: before the list or at an item of the list
that is kept and stands in front. -/
theorem firstsBy_covers {key : α → κ} {before : α → α → Prop} {items : List α} {seen : List κ}
    (hp : items.Pairwise before) {a : α} (ha : a ∈ items) (hout : a ∉ firstsBy key seen items) :
    key a ∈ seen ∨ ∃ b ∈ firstsBy key seen items, before b a ∧ key b = key a := by
  induction items generalizing seen with
  | nil => cases ha
  | cons x items ih =>
      rw [firstsBy] at hout ⊢
      split at hout
      · rename_i hx
        rw [if_pos hx]
        rcases List.mem_cons.mp ha with rfl | ha
        · exact .inl hx
        · exact ih hp.tail ha hout
      · rename_i hx
        rw [if_neg hx]
        obtain ⟨hne, hout⟩ := not_or.mp (mt List.mem_cons.mpr hout)
        have ha : a ∈ items := (List.mem_cons.mp ha).resolve_left hne
        -- What has been seen behind `x` is what was seen before, or the key of `x`, which is kept.
        rcases ih hp.tail ha hout with hseen | ⟨b, hb, hbefore, hkey⟩
        · rcases List.mem_cons.mp hseen with hkey | hseen
          · exact .inr ⟨x, by simp, List.rel_of_pairwise_cons hp ha, hkey.symm⟩
          · exact .inl hseen
        · exact .inr ⟨b, by simp [hb], hbefore, hkey⟩

/-- Each item has the key of one that is kept. -/
theorem exists_mem_firstsBy (key : α → κ) {items : List α} {a : α} (ha : a ∈ items) :
    ∃ b ∈ firstsBy key [] items, key b = key a := by
  by_cases hkept : a ∈ firstsBy key [] items
  · exact ⟨a, hkept, rfl⟩
  · have hany : items.Pairwise fun _ _ => True := List.pairwise_of_forall fun _ _ => trivial
    rcases firstsBy_covers hany ha hkept with hseen | ⟨b, hb, -, hkey⟩
    · cases hseen
    · exact ⟨b, hb, hkey⟩

theorem not_mem_of_mem_firstsBy {key : α → κ} {items : List α} {seen : List κ} {a : α}
    (h : a ∈ firstsBy key seen items) : key a ∉ seen := by
  induction items generalizing seen with
  | nil => cases h
  | cons x items ih =>
      rw [firstsBy] at h
      split at h
      · exact ih h
      · rename_i hx
        rcases List.mem_cons.mp h with rfl | h
        · exact hx
        · exact fun hseen => ih h (List.mem_cons_of_mem _ hseen)

theorem pairwise_firstsBy (key : α → κ) (seen : List κ) (items : List α) :
    (firstsBy key seen items).Pairwise fun a b => key a ≠ key b := by
  induction items generalizing seen with
  | nil => simp [firstsBy]
  | cons x items ih =>
      rw [firstsBy]
      split
      · exact ih seen
      · refine List.Pairwise.cons (fun b hb hkey => ?_) (ih _)
        exact not_mem_of_mem_firstsBy hb (hkey ▸ List.mem_cons_self)

/-- Nothing is left out of a list of items with different keys that have not been seen. -/
theorem firstsBy_eq_self {key : α → κ} {items : List α} {seen : List κ}
    (hp : items.Pairwise fun a b => key a ≠ key b) (hs : ∀ a ∈ items, key a ∉ seen) :
    firstsBy key seen items = items := by
  induction items generalizing seen with
  | nil => rfl
  | cons x items ih =>
      have hrest : ∀ a ∈ items, key a ∉ key x :: seen := by
        intro a ha hseen
        rcases List.mem_cons.mp hseen with hkey | hseen
        · exact List.rel_of_pairwise_cons hp ha hkey.symm
        · exact hs a (by simp [ha]) hseen
      rw [firstsBy, if_neg (hs x (by simp)), ih hp.tail hrest]

/-- One more item is kept if its key has not been seen. -/
theorem firstsBy_concat (key : α → κ) (seen : List κ) (items : List α) (a : α) :
    firstsBy key seen (items ++ [a]) =
      if key a ∈ seen ∨ key a ∈ items.map key then firstsBy key seen items
      else firstsBy key seen items ++ [a] := by
  induction items generalizing seen with
  | nil => simp [firstsBy]
  | cons x items ih =>
      rw [List.cons_append, firstsBy, firstsBy]
      by_cases hx : key x ∈ seen
      · -- The key of `x` has been seen before, so it makes no difference that `x` has it as well.
        have hmem : (key a ∈ seen ∨ key a ∈ items.map key) ↔
            key a ∈ seen ∨ key a ∈ (x :: items).map key := by
          rw [List.map_cons, List.mem_cons]
          constructor
          · rintro (h | h)
            · exact .inl h
            · exact .inr (.inr h)
          · rintro (h | h | h)
            · exact .inl h
            · exact .inl (h ▸ hx)
            · exact .inr h
        rw [if_pos hx, if_pos hx, ih]
        simp only [hmem]
      · have hmem : (key a ∈ key x :: seen ∨ key a ∈ items.map key) ↔
            key a ∈ seen ∨ key a ∈ (x :: items).map key := by
          rw [List.map_cons, List.mem_cons, List.mem_cons, or_assoc, or_left_comm]
        rw [if_neg hx, if_neg hx, ih]
        simp only [hmem]
        split <;> rfl

instance (key : α → κ) (items : List α) : DecidablePred (FirstOfKey key items) := fun p =>
  inferInstanceAs (Decidable (∀ q ∈ items.zipIdx, q.2 < p.2 → key q.1 ≠ key p.1))

/-- The items that are kept are those whose key no item in front of them has. -/
theorem firstsBy_eq_filter (key : α → κ) (items : List α) :
    firstsBy key [] items =
      (items.zipIdx.filter fun p => FirstOfKey key items p).map Prod.fst := by
  -- From the end, since an item is kept for what stands in front of it.
  induction items using List.reverseRecOn with
  | nil => rfl
  | append_singleton items a ih =>
      have hfront : items.zipIdx.filter (fun p => FirstOfKey key (items ++ [a]) p) =
          items.zipIdx.filter fun p => FirstOfKey key items p := by
        refine List.filter_congr fun p hp => ?_
        have hle : p.2 ≤ items.length := Nat.le_of_lt (List.snd_lt_of_mem_zipIdx hp)
        simp only [firstOfKey_concat key items a hle]
      have hlast : FirstOfKey key (items ++ [a]) (a, items.length) ↔ key a ∉ items.map key :=
        (firstOfKey_concat key items a (Nat.le_refl _)).trans (firstOfKey_last key items a)
      rw [firstsBy_concat, List.zipIdx_append, List.filter_append, List.map_append, hfront, ← ih]
      by_cases hmem : key a ∈ items.map key
      · simp [hlast, hmem]
      · simp [hlast, hmem]

theorem head?_firstsBy (key : α → κ) (items : List α) :
    (firstsBy key [] items).head? = items.head? := by
  cases items with
  | nil => rfl
  | cons x items => simp [firstsBy]

theorem pairwise_zipIdx (items : List α) : items.zipIdx.Pairwise fun p q => p.2 < q.2 := by
  rw [← List.pairwise_map, List.zipIdx_map_snd]
  exact List.pairwise_lt_range'

end Firsts

end Tabular
