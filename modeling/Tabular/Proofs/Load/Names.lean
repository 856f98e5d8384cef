import Tabular.Load.Header
import Tabular.Proofs.Number.Decimal
import Tabular.Proofs.Number.Numeral
import Mathlib.Data.List.Induction
import Mathlib.Data.List.Nodup
import Mathlib.Data.List.Perm.Subperm

set_option autoImplicit false

/-! # Names of columns

The names that a header row gives to its columns are distinct, trimmed and not blank, whatever
its cells are (`proper_names`), and names with these properties are kept as they are
(`names_eq_self`). Numbered columns have them too (`proper_positions`).
-/

namespace Tabular.Header

open Text

/-! ## Names with a number -/

theorem not_isBlank_toString (n : Nat) : ∀ c ∈ (toString n).toList, isBlank c = false :=
  fun _ hc => Number.not_isBlank_of_isDecimalDigit
    (isDecimalDigit_of_isDigit (Number.isDigit_of_mem_digitChars hc))

theorem toList_numbered (position : Nat) :
    (numbered position).toList = "column_".toList ++ (toString position).toList := by
  rw [numbered, String.toList_append]

theorem numbered_injective : Function.Injective numbered :=
  Number.append_toString_injective "column_"

theorem toList_variant {n : Nat} (hn : n ≠ 0) (base : String) :
    (variant base n).toList = base.toList ++ ('_' :: (toString n).toList) := by
  rw [variant, if_neg hn, String.toList_append, String.toList_append, List.append_assoc]
  rfl

theorem variant_injective (base : String) : Function.Injective (variant base) := by
  -- A number makes the name longer, and different numbers have different digits.
  have hne : ∀ n, n ≠ 0 → variant base n ≠ base := by
    intro n hn h
    have hl := congrArg String.toList h
    rw [toList_variant hn] at hl
    simp at hl
  intro m n h
  by_cases hm : m = 0
  · by_cases hn : n = 0
    · rw [hm, hn]
    · exact absurd (h.symm.trans (by rw [variant, if_pos hm])) (hne n hn)
  · by_cases hn : n = 0
    · exact absurd (h.trans (by rw [variant, if_pos hn])) (hne m hm)
    · have hl := congrArg String.toList h
      rw [toList_variant hm, toList_variant hn, List.append_cancel_left_eq, List.cons.injEq] at hl
      exact Number.toString_injective (String.toList_inj.mp hl.2)

theorem variant_eq_self_iff {base : String} {n : Nat} : variant base n = base ↔ n = 0 := by
  constructor
  · intro h
    exact variant_injective base (h.trans (by rw [variant, if_pos rfl]))
  · rintro rfl
    rw [variant, if_pos rfl]

/-! ## Fresh names -/

/-- One of the variants is not taken, since there are more variants than taken names; the first
such variant is the one that is chosen. -/
theorem exists_fresh_eq_variant (taken : List String) (base : String) :
    ∃ n, fresh taken base = variant base n ∧ variant base n ∉ taken ∧
      ∀ m < n, variant base m ∈ taken := by
  unfold fresh
  split
  · rename_i n hn
    obtain ⟨hfree, -, hfirst⟩ := List.find?_range_eq_some.mp hn
    exact ⟨n, rfl, by simpa using hfree, fun m hm => by simpa using hfirst m hm⟩
  · rename_i hnone
    -- Otherwise all variants are taken, and they are distinct.
    have hsub : (List.range (taken.length + 1)).map (variant base) ⊆ taken := by
      intro name hname
      obtain ⟨n, hn, rfl⟩ := List.mem_map.mp hname
      simpa using List.find?_eq_none.mp hnone n hn
    have hnd : ((List.range (taken.length + 1)).map (variant base)).Nodup :=
      List.nodup_range.map (variant_injective base)
    have hle := (List.subperm_of_subset hnd hsub).length_le
    rw [List.length_map, List.length_range] at hle
    omega

theorem fresh_of_not_mem {taken : List String} {base : String} (h : base ∉ taken) :
    fresh taken base = base := by
  have hv : variant base 0 = base := rfl
  have hf : (List.range (taken.length + 1)).find? (fun n => !taken.contains (variant base n)) =
      some 0 := by
    rw [List.range_succ_eq_map, List.find?_cons, hv]
    simp [h]
  rw [fresh, hf]
  rfl

/-! ## Names of a header row -/

theorem namesAfter_concat (taken cells : List String) (cell : String) :
    namesAfter taken (cells ++ [cell]) = namesAfter taken cells ++
      [fresh (namesAfter taken cells) (wanted ((namesAfter taken cells).length + 1) cell)] := by
  induction cells generalizing taken with
  | nil => rfl
  | cons first cells ih => exact ih _

theorem names_concat (cells : List String) (cell : String) :
    names (cells ++ [cell]) =
      names cells ++ [fresh (names cells) (wanted ((names cells).length + 1) cell)] :=
  namesAfter_concat [] cells cell

theorem length_names (cells : List String) : (names cells).length = cells.length := by
  induction cells using List.reverseRecOn with
  | nil => rfl
  | append_singleton cells cell ih =>
      rw [names_concat, List.length_append, List.length_append, ih]
      rfl

theorem names_ne_nil {cells : List String} (h : cells ≠ []) : names cells ≠ [] := by
  intro hn
  have hl := length_names cells
  rw [hn] at hl
  exact h (List.length_eq_zero_iff.mp hl.symm)

/-! ## Proper names -/

/-- The name is not blank and has no blanks around it. -/
structure Tidy (name : String) : Prop where
  ne_empty : name ≠ ""
  noBlankEnds : NoBlankEnds name.toList

theorem Tidy.trimmed_eq {name : String} (h : Tidy name) : trimmed name = name := by
  rw [trimmed, trim_eq_self h.noBlankEnds, String.ofList_toList]

theorem Tidy.wanted_eq {name : String} (h : Tidy name) (position : Nat) :
    wanted position name = name := by
  simp only [wanted, h.trimmed_eq, if_neg h.ne_empty]

theorem tidy_numbered (position : Nat) : Tidy (numbered position) := by
  have hb : ∀ c ∈ (numbered position).toList, isBlank c = false := by
    have hcolumn : ("column_".toList.all fun c => !isBlank c) = true := by decide
    intro c hc
    rw [toList_numbered] at hc
    rcases List.mem_append.mp hc with h | h
    · simpa using List.all_eq_true.mp hcolumn c h
    · exact not_isBlank_toString position c h
  refine ⟨fun h => ?_, noBlankEnds_of_forall hb⟩
  have hl := congrArg String.toList h
  rw [toList_numbered] at hl
  simp at hl

theorem wanted_of_ne {cell : String} (h : trimmed cell ≠ "") (position : Nat) :
    wanted position cell = trimmed cell := by
  simp only [wanted, if_neg h]

theorem tidy_wanted (position : Nat) (cell : String) : Tidy (wanted position cell) := by
  by_cases h : trimmed cell = ""
  · simp only [wanted, if_pos h]
    exact tidy_numbered position
  · rw [wanted_of_ne h]
    refine ⟨h, ?_⟩
    rw [trimmed, String.toList_ofList]
    exact noBlankEnds_trim cell.toList

theorem tidy_variant {base : String} (h : Tidy base) (n : Nat) : Tidy (variant base n) := by
  by_cases hn : n = 0
  · rw [variant, if_pos hn]
    exact h
  · have hne : base.toList ≠ [] := by simpa using h.ne_empty
    have hb : ∀ c ∈ '_' :: (toString n).toList, isBlank c = false := by
      intro c hc
      rcases List.mem_cons.mp hc with rfl | hc
      · rfl
      · exact not_isBlank_toString n c hc
    refine ⟨fun he => ?_, ?_⟩
    · have hl := congrArg String.toList he
      rw [toList_variant hn] at hl
      simp at hl
    · rw [toList_variant hn]
      exact h.noBlankEnds.append (noBlankEnds_of_forall hb) hne (List.cons_ne_nil _ _)

/-- Names that a header row can have. -/
structure Proper (names : List String) : Prop where
  nodup : names.Nodup
  tidy : ∀ name ∈ names, Tidy name

theorem proper_nil : Proper [] := ⟨List.nodup_nil, by simp⟩

theorem Proper.concat {taken : List String} (h : Proper taken) {name : String}
    (hn : name ∉ taken) (ht : Tidy name) : Proper (taken ++ [name]) := by
  constructor
  · rw [List.nodup_append]
    refine ⟨h.nodup, by simp, ?_⟩
    intro a ha b hb hab
    rw [List.mem_singleton] at hb
    exact hn (hb ▸ hab ▸ ha)
  · intro a ha
    rcases List.mem_append.mp ha with ha | ha
    · exact h.tidy a ha
    · rw [List.mem_singleton.mp ha]
      exact ht

theorem proper_namesAfter {taken : List String} (h : Proper taken) (cells : List String) :
    Proper (namesAfter taken cells) := by
  induction cells generalizing taken with
  | nil => exact h
  | cons cell cells ih =>
      obtain ⟨n, hf, hn, -⟩ := exists_fresh_eq_variant taken (wanted (taken.length + 1) cell)
      rw [namesAfter, hf]
      exact ih (h.concat hn (tidy_variant (tidy_wanted _ cell) n))

theorem proper_names (cells : List String) : Proper (names cells) :=
  proper_namesAfter proper_nil cells

theorem proper_positions (width : Nat) : Proper (positions width) := by
  constructor
  · exact List.nodup_range.map fun m n h => Nat.succ.inj (numbered_injective h)
  · intro name hname
    obtain ⟨i, -, rfl⟩ := List.mem_map.mp hname
    exact tidy_numbered (i + 1)

theorem namesAfter_eq_append {taken cells : List String} (h : Proper (taken ++ cells)) :
    namesAfter taken cells = taken ++ cells := by
  induction cells generalizing taken with
  | nil => rw [List.append_nil]; rfl
  | cons cell cells ih =>
      have ht : Tidy cell := h.tidy cell (by simp)
      have hc : cell ∉ taken := by
        intro hc
        exact (List.nodup_append.mp h.nodup).2.2 cell hc cell (by simp) rfl
      have hj : taken ++ cell :: cells = taken ++ [cell] ++ cells := by simp
      rw [namesAfter, ht.wanted_eq, fresh_of_not_mem hc, hj]
      exact ih (hj ▸ h)

/-- Proper names are kept by a header row. -/
theorem names_eq_self {cells : List String} (h : Proper cells) : names cells = cells :=
  namesAfter_eq_append h

/-- They are the only ones that it keeps. -/
theorem proper_iff_names_eq_self {cells : List String} : Proper cells ↔ names cells = cells :=
  ⟨names_eq_self, fun h => h ▸ proper_names cells⟩

instance (cells : List String) : Decidable (Proper cells) :=
  decidable_of_iff' _ proper_iff_names_eq_self

end Tabular.Header
