import Mathlib.Order.Compare
import Tabular.Collation
import Tabular.Proofs.Table.Arrangement

set_option autoImplicit false

/-! # Texts in order

Texts compare as equal only if they are equal (`Collation.collate_eq_eq_iff`). The collation is no
order of all texts: the comparison of plain letters and digits gives way to that of keys at another
character, but not at one that stands in the second text behind the end of the first. Without other
characters it never gives way. Texts are then ordered by their letters, in either case, and texts
of the same letters by their cases (`Collation.collate_of_plain`). So a sort by a column of plain
texts, or of numbers, arranges the rows, and keeps those that compare as equal in their order
(`Table.arrangement_sort`).
-/

namespace Tabular

namespace Collation

/-! ## Letters -/

/-- The place of a letter among letters, in either case. -/
def letterCode (c : Char) : Nat := c.toUpper.toNat

/-- The place of a letter among those of its two cases, the small one first. -/
def caseCode (c : Char) : Nat := if c.isLower then 0 else 1

theorem toNat_lt_of_isAlphanum {c : Char} (h : c.isAlphanum = true) : c.toNat < 128 := by
  delta Char.isAlphanum Char.isAlpha Char.isUpper Char.isLower Char.isDigit at h
  simp only [Bool.or_eq_true, Bool.and_eq_true, decide_eq_true_eq, UInt32.le_iff_toNat_le] at h
  have hval : c.val.toNat = c.toNat := rfl
  simp at h
  omega

/-- A letter goes over into the other case and back, and is itself in its own case. -/
structure HasCases (c : Char) : Prop where
  lower_upper : c.toUpper.toLower = c.toLower
  upper_lower : c.toLower.toUpper = c.toUpper
  lower : c.isLower = true → c.toLower = c
  upper : c.isLower = false → c.toUpper = c

instance : DecidablePred HasCases := fun c =>
  decidable_of_iff
    (c.toUpper.toLower = c.toLower ∧ c.toLower.toUpper = c.toUpper ∧
      (c.isLower = true → c.toLower = c) ∧ (c.isLower = false → c.toUpper = c))
    ⟨fun ⟨h₁, h₂, h₃, h₄⟩ => ⟨h₁, h₂, h₃, h₄⟩,
      fun h => ⟨h.lower_upper, h.upper_lower, h.lower, h.upper⟩⟩

theorem hasCases {c : Char} (h : c.isAlphanum = true) : HasCases c := by
  have hall : ∀ n < 128, HasCases (Char.ofNat n) := by decide +kernel
  have hc := hall c.toNat (toNat_lt_of_isAlphanum h)
  rwa [Char.ofNat_toNat] at hc

/-- Two letters are the same in small exactly if they are so in capitals, and then the case tells
them apart. -/
structure LettersAgree (x y : Char) : Prop where
  same : x.toLower = y.toLower ↔ letterCode x = letterCode y
  case : x ≠ y → x.toLower = y.toLower →
    compare (caseCode x) (caseCode y) = if x.isLower then .lt else .gt

theorem lettersAgree {x y : Char} (hx : x.isAlphanum = true) (hy : y.isAlphanum = true) :
    LettersAgree x y := by
  have hx := hasCases hx
  have hy := hasCases hy
  constructor
  · unfold letterCode
    constructor
    · intro h
      rw [← hx.upper_lower, ← hy.upper_lower, h]
    · intro h
      rw [← hx.lower_upper, ← hy.lower_upper, Char.toNat_inj.mp h]
  · intro hne h
    unfold caseCode
    cases hlx : x.isLower <;> cases hly : y.isLower
    · refine absurd ?_ hne
      rw [← hx.upper hlx, ← hy.upper hly, ← hx.upper_lower, ← hy.upper_lower, h]
    · rfl
    · rfl
    · refine absurd ?_ hne
      rw [← hx.lower hlx, ← hy.lower hly, h]

theorem LettersAgree.compare_letterCode_ne {x y : Char} (h : LettersAgree x y)
    (hne : x.toLower ≠ y.toLower) : compare (letterCode x) (letterCode y) ≠ .eq := by
  intro he
  exact hne (h.same.mpr (compare_eq_iff_eq.mp he))

/-! ## Plain texts -/

/-- Nothing but ASCII letters and digits. -/
def Plain (s : List Char) : Prop := ∀ c ∈ s, c.isAlphanum = true

/-- The letters decide, then the case that differed before, and then the cases. -/
theorem quick_of_plain {a b : List Char} (ha : Plain a) (hb : Plain b) (byCase : Ordering) :
    quick byCase a b = some ((compare (a.map letterCode) (b.map letterCode)).then
      (byCase.then (compare (a.map caseCode) (b.map caseCode)))) := by
  induction a generalizing b byCase with
  | nil =>
      cases b with
      | nil => cases byCase <;> rfl
      | cons y b => rfl
  | cons x a ih =>
      have hx : x.isAlphanum = true := ha x List.mem_cons_self
      cases b with
      | nil =>
          have hlong : compare (a.length + 1) 0 = .gt := compare_gt_iff_gt.mpr (Nat.succ_pos _)
          simp [quick, hx, atEnd, hlong]
      | cons y b =>
          have hy : y.isAlphanum = true := hb y List.mem_cons_self
          have hagree := lettersAgree hx hy
          have ih := fun byCase => ih (fun c hc => ha c (List.mem_cons_of_mem x hc))
            (fun c hc => hb c (List.mem_cons_of_mem y hc)) byCase
          simp only [quick, hx, hy, Bool.not_true, Bool.false_eq_true, if_false, List.map_cons,
            List.compare_cons_cons]
          by_cases hxy : x = y
          · subst hxy
            simp [ih]
          rw [if_neg hxy]
          by_cases hlower : x.toLower = y.toLower
          · have hletter : letterCode x = letterCode y := hagree.same.mp hlower
            -- The cases behind the first ones that differ do not count.
            rw [if_pos hlower, ih, hagree.case hxy hlower, hletter, compare_eq_iff_eq.mpr rfl]
            cases x.isLower <;> cases byCase <;> rfl
          · have hne := hagree.compare_letterCode_ne hlower
            rw [if_neg hlower]
            show some (compare (letterCode x) (letterCode y)) = _
            cases hc : compare (letterCode x) (letterCode y) with
            | eq => exact absurd hc hne
            | lt => rfl
            | gt => rfl

/-- Plain texts are ordered by their letters, in either case, and then by their cases. -/
theorem collate_of_plain {a b : List Char} (ha : Plain a) (hb : Plain b) :
    collate a b = (compare (a.map letterCode) (b.map letterCode)).then
      (compare (a.map caseCode) (b.map caseCode)) := by
  rw [collate]
  split
  · rename_i he
    simp [he]
  · rw [quick_of_plain ha hb]
    rfl

/-- The collation is an order of plain texts. -/
theorem preorderOn_of_plain {texts : List String} (h : ∀ s ∈ texts, Plain s.toList) :
    Collate.PreorderOn collate texts := by
  have horder : Sorting.PreorderOn
      (compareLex (compareOn fun s : String => s.toList.map letterCode)
        (compareOn fun s => s.toList.map caseCode)) texts :=
    Sorting.preorderOn_of_transCmp texts
  exact horder.congr fun s hs s' hs' => collate_of_plain (h s hs) (h s' hs')

/-! ## Equal texts -/

theorem compareWeights_eq_eq_iff {xs ys : List Nat} : compareWeights xs ys = .eq ↔ xs = ys := by
  induction xs generalizing ys with
  | nil => cases ys <;> simp [compareWeights]
  | cons x xs ih =>
      cases ys with
      | nil => simp [compareWeights]
      | cons y ys => rw [compareWeights, Ordering.then_eq_eq, compare_eq_iff_eq, ih, List.cons.injEq]

/-- The last level of a key holds the characters themselves. -/
theorem eq_of_compareKeys {a b : List Char} (h : compareKeys (key a) (key b) = .eq) : a = b := by
  simp only [key, compareKeys, Ordering.then_eq_eq, compareWeights_eq_eq_iff] at h
  exact List.map_injective_iff.mpr (fun _ _ => Char.toNat_inj.mp) h.2.2.2.2.1

theorem eq_of_quick {byCase : Ordering} {a b : List Char} (h : quick byCase a b = some .eq) :
    byCase = .eq ∧ a = b := by
  induction a generalizing b byCase with
  | nil =>
      cases b with
      | nil => exact ⟨by simpa [quick, atEnd] using h, rfl⟩
      | cons y b => simp [quick, atEnd] at h
  | cons x a ih =>
      unfold quick at h
      split at h
      · cases h
      rename_i hx
      cases b with
      | nil => simp [atEnd] at h
      | cons y b =>
          simp only at h
          split at h
          · cases h
          rename_i hy
          have hagree := lettersAgree (by simpa using hx) (by simpa using hy)
          split at h
          · rename_i hxy
            obtain ⟨hcase, rfl⟩ := ih h
            exact ⟨hcase, by rw [hxy]⟩
          split at h
          · -- Behind letters of different cases the case is not `eq` any more.
            have hcase := (Ordering.then_eq_eq.mp (ih h).1).2
            split at hcase <;> cases hcase
          · rename_i hlower
            exact absurd (Option.some.inj h) (hagree.compare_letterCode_ne hlower)

/-- Only equal texts compare as equal. -/
theorem collate_eq_eq_iff {a b : List Char} : collate a b = .eq ↔ a = b := by
  constructor
  · intro h
    rw [collate] at h
    split at h
    · assumption
    · cases hq : quick .eq a b with
      | none =>
          rw [hq] at h
          exact eq_of_compareKeys h
      | some order =>
          rw [hq] at h
          obtain rfl : order = .eq := h
          exact (eq_of_quick hq).2
  · rintro rfl
    simp [collate]

/-- So an `é` of one character and one of two differ, though only in the last level. A letter with a
mark stands behind the letter, and before the next one of its alphabet. -/
example : collate ['é'] ['e', '\u0301'] = .gt ∧ collate "čas".toList "cas".toList = .gt ∧
    collate "čas".toList "den".toList = .lt ∧ collate "вода".toList "жук".toList = .lt := by
  decide +kernel

end Collation

/-! ## Tables -/

/-- By a column of numbers, or of plain texts that are none, the rows are arranged. -/
theorem Table.arrangement_sort {t : Table} {column : String} (kind : t.OneKind column)
    (plain : (∀ r ∈ t, (r.get column).number? = none) →
      ∀ r ∈ t, Collation.Plain (r.text column).toList) :
    Sorting.Arrangement (rowOrder Collation.collate column) t (t.sort column) := by
  refine arrangement_sortBy (preorderOn_rowOrder kind fun hnone => ?_)
  refine Collation.preorderOn_of_plain fun s hs => ?_
  obtain ⟨r, hr, rfl⟩ := List.mem_map.mp hs
  exact plain hnone r hr

end Tabular
