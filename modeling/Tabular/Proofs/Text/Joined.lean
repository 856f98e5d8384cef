import Mathlib.Data.List.Basic
import Mathlib.Tactic.Ring

set_option autoImplicit false

/-! # Joined texts

Texts that are joined by a separator can be told apart in the joined text as long as it is known
how often each of them holds the separator (`eq_of_joined_eq`). The separators of the joined text
are those of its parts and one between each two parts, so the number is known of one part when
it is of the others: the separator may occur in the texts under one key
(`eq_of_joined_eq_of_free`). Under two keys it must not, as a separator at the end of the one part
and at the start of the other look the same.
-/

namespace Tabular.Text

variable {sep : Char}

/-- A longer text would hold the separator that stands behind the shorter one. -/
theorem eq_nil_of_count_append {u a v w : List Char}
    (hc : (u ++ a).count sep = u.count sep) (h : sep :: v = a ++ w) : a = [] := by
  cases a with
  | nil => rfl
  | cons c a =>
      obtain ⟨rfl, -⟩ := List.cons.inj h
      rw [List.count_append, List.count_cons_self] at hc
      omega

theorem eq_of_append_cons_eq {u v u' v' : List Char} (hc : u.count sep = u'.count sep)
    (h : u ++ sep :: v = u' ++ sep :: v') : u = u' ∧ v = v' := by
  rcases List.append_eq_append_iff.mp h with ⟨a, rfl, hv⟩ | ⟨a, rfl, hv⟩
  · obtain rfl := eq_nil_of_count_append hc.symm hv
    simpa using hv
  · obtain rfl := eq_nil_of_count_append hc hv
    simpa using hv.symm

theorem eq_of_joined_eq {κ : Type} {keys : List κ} {f g : κ → List Char}
    (hc : ∀ k ∈ keys, (f k).count sep = (g k).count sep)
    (h : [sep].intercalate (keys.map f) = [sep].intercalate (keys.map g)) :
    ∀ k ∈ keys, f k = g k := by
  induction keys with
  | nil => simp
  | cons k keys ih =>
      cases keys with
      | nil => simpa using h
      | cons next keys =>
          simp only [List.map_cons, List.intercalate_cons_cons, List.append_assoc,
            List.singleton_append] at h
          obtain ⟨hk, hrest⟩ := eq_of_append_cons_eq (hc k (by simp)) h
          intro k' hk'
          rcases List.mem_cons.mp hk' with rfl | hk'
          · exact hk
          · exact ih (fun k' hk' => hc k' (by simp [List.mem_cons.mp hk'])) hrest k' hk'

/-! ## Counting separators -/

/-- One separator more would stand behind each of the parts. -/
theorem count_intercalate {texts : List (List Char)} (h : texts ≠ []) :
    ([sep].intercalate texts).count sep + 1 = (texts.map fun t => t.count sep + 1).sum := by
  induction texts with
  | nil => exact absurd rfl h
  | cons t texts ih =>
      cases texts with
      | nil => simp
      | cons next texts =>
          have hrest := ih (by simp)
          rw [List.intercalate_cons_cons, List.count_append, List.count_append, List.map_cons,
            List.sum_cons, ← hrest, List.count_singleton_self]
          omega

theorem sum_counts_of_free {keys : List String} {free : String} {f : String → List Char}
    (hf : ∀ k ∈ keys, k ≠ free → sep ∉ f k) :
    (keys.map fun k => (f k).count sep + 1).sum =
      keys.count free * (f free).count sep + keys.length := by
  induction keys with
  | nil => simp
  | cons k keys ih =>
      rw [List.map_cons, List.sum_cons, ih fun k' hk' => hf k' (by simp [hk'])]
      by_cases hk : k = free
      · subst hk
        rw [List.count_cons_self, List.length_cons]
        ring
      · rw [List.count_cons_of_ne hk, List.count_eq_zero_of_not_mem (hf k (by simp) hk),
          List.length_cons]
        omega

/-- The separator may occur in the texts under one key. -/
theorem eq_of_joined_eq_of_free {keys : List String} {free : String} {f g : String → List Char}
    (hf : ∀ k ∈ keys, k ≠ free → sep ∉ f k) (hg : ∀ k ∈ keys, k ≠ free → sep ∉ g k)
    (h : [sep].intercalate (keys.map f) = [sep].intercalate (keys.map g)) :
    ∀ k ∈ keys, f k = g k := by
  refine eq_of_joined_eq (fun k hk => ?_) h
  by_cases hfree : k = free
  · subst hfree
    have hne : keys ≠ [] := List.ne_nil_of_mem hk
    have hcount : (keys.map fun k => (f k).count sep + 1).sum =
        (keys.map fun k => (g k).count sep + 1).sum := by
      have hjoined := congrArg (fun s => s.count sep + 1) h
      simp only [count_intercalate (by simpa using hne : keys.map f ≠ []),
        count_intercalate (by simpa using hne : keys.map g ≠ []), List.map_map] at hjoined
      exact hjoined
    rw [sum_counts_of_free hf, sum_counts_of_free hg] at hcount
    have hpos : 0 < keys.count k := List.count_pos_iff.mpr hk
    exact Nat.eq_of_mul_eq_mul_left hpos (by omega)
  · rw [List.count_eq_zero_of_not_mem (hf k hk hfree),
      List.count_eq_zero_of_not_mem (hg k hk hfree)]

theorem eq_of_intercalate_eq_of_free {sepText : String} (hsep : sepText.toList = [sep])
    {keys : List String} {free : String} {f g : String → String}
    (hf : ∀ k ∈ keys, k ≠ free → sep ∉ (f k).toList)
    (hg : ∀ k ∈ keys, k ≠ free → sep ∉ (g k).toList)
    (h : sepText.intercalate (keys.map f) = sepText.intercalate (keys.map g)) :
    ∀ k ∈ keys, f k = g k := by
  have hj := congrArg String.toList h
  simp only [String.toList_intercalate, hsep, List.map_map] at hj
  intro k hk
  exact String.toList_inj.mp (eq_of_joined_eq_of_free hf hg hj k hk)

end Tabular.Text
