import Mathlib.Data.List.Basic
import Tabular.Text.Case

set_option autoImplicit false

/-! # The lower case of a part of a text

A letter has the same lower case wherever it stands, but for the capital sigma, which looks at what
stands on both sides of it. So the lower case of a part depends on its surroundings
(`lowerBetween`), and it is that of the part on its own exactly if each capital sigma of the part
ends a word in both places or in neither (`lowerBetween_eq_lower_iff`). Its length is the same in any
case, so that the parts of a text have their places in the lower case of the text
(`lower_append`).
-/

namespace Tabular.Text

/-- The lower case of a text that stands between `before`, read backwards, and `after`. -/
def lowerBetween (before : List Char) : List Char → List Char → List Char
  | [], _ => []
  | c :: rest, after =>
    (if c = 'Σ' then [if endsWord before (rest ++ after) then 'ς' else 'σ'] else lowerChar c)
      ++ lowerBetween (c :: before) rest after

theorem lowerBetween_nil (before s : List Char) : lowerBetween before s [] = lowerAfter before s := by
  induction s generalizing before with
  | nil => rfl
  | cons c s ih => rw [lowerBetween, lowerAfter, List.append_nil, ih]

theorem lowerAfter_append (before s t : List Char) :
    lowerAfter before (s ++ t) = lowerBetween before s t ++ lowerAfter (s.reverse ++ before) t := by
  induction s generalizing before with
  | nil => rfl
  | cons c s ih =>
      rw [List.cons_append, lowerAfter, lowerBetween, ih, List.append_assoc, List.reverse_cons,
        List.append_assoc, List.singleton_append]

/-- The lower case of a text consists of those of its parts, each where it stands. -/
theorem lower_append (before s after : List Char) :
    lower (before ++ s ++ after) =
      lowerBetween [] before (s ++ after) ++
        (lowerBetween before.reverse s after ++ lowerAfter (s.reverse ++ before.reverse) after) := by
  rw [lower, List.append_assoc, lowerAfter_append, lowerAfter_append, List.append_nil]

theorem length_lowerBetween (before before' s after after' : List Char) :
    (lowerBetween before s after).length = (lowerBetween before' s after').length := by
  induction s generalizing before before' with
  | nil => rfl
  | cons c s ih =>
      have hrest := ih (c :: before) (c :: before')
      by_cases hc : c = 'Σ'
      · simp only [lowerBetween, if_pos hc, List.length_append, List.length_singleton, hrest]
      · simp only [lowerBetween, if_neg hc, List.length_append, hrest]

/-- Each capital sigma of `s` ends a word between `before` and `after`, exactly if it ends one in
`s` alone. -/
def SameSigmas (before s after : List Char) : Prop :=
  ∀ u w, s = u ++ 'Σ' :: w →
    endsWord (u.reverse ++ before.reverse) (w ++ after) = endsWord u.reverse w

theorem sameSigmas_of_not_mem {s : List Char} (h : 'Σ' ∉ s) (before after : List Char) :
    SameSigmas before s after := by
  rintro u w rfl
  exact absurd (by simp) h

theorem sigma_eq_sigma_iff {p q : Bool} :
    (if p then 'ς' else 'σ') = (if q then 'ς' else 'σ') ↔ p = q := by
  revert p q
  decide

/-- The lower cases of a text in two places agree if its capital sigmas do. -/
theorem lowerBetween_eq_iff {before before' s after after' : List Char} :
    lowerBetween before s after = lowerBetween before' s after' ↔
      ∀ u w, s = u ++ 'Σ' :: w →
        endsWord (u.reverse ++ before) (w ++ after) =
          endsWord (u.reverse ++ before') (w ++ after') := by
  induction s generalizing before before' with
  | nil => simp [lowerBetween]
  | cons c s ih =>
      -- The letters in front are equally long in both places, so they are compared one by one.
      have hsplit : lowerBetween before (c :: s) after = lowerBetween before' (c :: s) after' ↔
          (c = 'Σ' → endsWord before (s ++ after) = endsWord before' (s ++ after')) ∧
            lowerBetween (c :: before) s after = lowerBetween (c :: before') s after' := by
        by_cases hc : c = 'Σ'
        · subst hc
          simp only [lowerBetween, if_true, List.singleton_append, List.cons.injEq,
            sigma_eq_sigma_iff, forall_const]
        · simp only [lowerBetween, if_neg hc, List.append_cancel_left_eq]
          exact ⟨fun h => ⟨fun he => absurd he hc, h⟩, And.right⟩
      -- The first letter is the sigma of the empty beginning; those of the rest stand behind it.
      rw [hsplit, ih]
      constructor
      · rintro ⟨hfirst, hrest⟩ u w he
        cases u with
        | nil =>
            obtain ⟨rfl, rfl⟩ := List.cons.inj he
            exact hfirst rfl
        | cons d u =>
            obtain ⟨rfl, rfl⟩ := List.cons.inj he
            simpa using hrest u w rfl
      · intro h
        refine ⟨fun hc => h [] s (by rw [hc]; rfl), fun u w he => ?_⟩
        simpa using h (c :: u) w (by rw [he]; rfl)

theorem lowerBetween_eq_lower_iff {before s after : List Char} :
    lowerBetween before.reverse s after = lower s ↔ SameSigmas before s after := by
  rw [lower, ← lowerBetween_nil, lowerBetween_eq_iff]
  simp only [SameSigmas, List.append_nil]

instance (before s after : List Char) : Decidable (SameSigmas before s after) :=
  decidable_of_iff _ lowerBetween_eq_lower_iff

theorem length_lowerBetween_eq (before s after : List Char) :
    (lowerBetween before s after).length = (lower s).length := by
  rw [lower, ← lowerBetween_nil]
  exact length_lowerBetween before [] s after []

/-! ## Beginnings, ends and parts -/

/-- The lower case of a beginning begins the lower case of the text exactly if its sigmas stay the
same. -/
theorem lower_prefix_iff (s after : List Char) :
    lower s <+: lower (s ++ after) ↔ SameSigmas [] s after := by
  have htext : lower (s ++ after) =
      lowerBetween [] s after ++ lowerAfter (s.reverse ++ []) after :=
    lowerAfter_append [] s after
  have hlen := length_lowerBetween_eq [] s after
  rw [← lowerBetween_eq_lower_iff, htext, List.reverse_nil]
  constructor
  · intro h
    have hshort : lower s <+: lowerBetween [] s after :=
      List.prefix_of_prefix_length_le h (List.prefix_append _ _) (Nat.le_of_eq hlen.symm)
    exact (hshort.eq_of_length hlen.symm).symm
  · intro h
    rw [h]
    exact List.prefix_append _ _

/-- The lower case of an end ends the lower case of the text exactly if its sigmas stay the same. -/
theorem lower_suffix_iff (before s : List Char) :
    lower s <:+ lower (before ++ s) ↔ SameSigmas before s [] := by
  have htext : lower (before ++ s) = lowerBetween [] before s ++ lowerBetween before.reverse s [] := by
    have h := lower_append before s []
    rwa [List.append_nil, List.append_nil, lowerAfter, List.append_nil] at h
  have hlen := length_lowerBetween_eq before.reverse s []
  rw [← lowerBetween_eq_lower_iff, htext]
  constructor
  · intro h
    have hshort : lower s <:+ lowerBetween before.reverse s [] :=
      List.suffix_of_suffix_length_le h (List.suffix_append _ _) (Nat.le_of_eq hlen.symm)
    exact (hshort.eq_of_length hlen.symm).symm
  · intro h
    rw [h]
    exact List.suffix_append _ _

/-- The lower case of a part is in the lower case of the text if its sigmas stay the same. -/
theorem lower_infix_of_sameSigmas {before s after : List Char} (h : SameSigmas before s after) :
    lower s <:+: lower (before ++ s ++ after) := by
  rw [lower_append, lowerBetween_eq_lower_iff.mpr h]
  exact ⟨_, _, by rw [List.append_assoc]⟩

end Tabular.Text
