import Tabular.Cell
import Tabular.Proofs.Number.Denoted
import Tabular.Proofs.Number.Numeral

set_option autoImplicit false

/-! # The readings of a cell

A number reaches a table in three ways: a field is inferred to be one (`Cell.infer`), a cell stands
for one (`Cell.number?`), and a text starts with one (`Number.ofText?`). The three readings agree
(`SameReading`). The text of a cell is read as the number of the cell (`Cell.sameReading_toText`), so
numbers have the same text only if they are the same (`Number.toText_eq_iff`); and a field that is
inferred to be a number starts with this number (`Cell.ofText?_of_infer`).
-/

namespace Tabular

/-! ## Numbers that are the same -/

namespace Number

theorem same_iff {x y : Number} :
    x.same y = true ↔ (x.isNan = false ∧ y.isNan = false) ∧ x.key = y.key := by
  simp [same]

theorem isNan_of_isFinite {x : Number} (h : x.isFinite = true) : x.isNan = false := by
  cases x with
  | nan => cases h
  | finite negative rank hr => rfl
  | infinite negative => rfl

theorem same_symm {x y : Number} (h : x.same y = true) : y.same x = true := by
  obtain ⟨⟨hx, hy⟩, hkey⟩ := same_iff.mp h
  exact same_iff.mpr ⟨⟨hy, hx⟩, hkey.symm⟩

theorem same_trans {x y z : Number} (hxy : x.same y = true) (hyz : y.same z = true) :
    x.same z = true := by
  obtain ⟨⟨hx, -⟩, hkey⟩ := same_iff.mp hxy
  obtain ⟨⟨-, hz⟩, hkey'⟩ := same_iff.mp hyz
  exact same_iff.mpr ⟨⟨hx, hz⟩, hkey.trans hkey'⟩

theorem lt_congr {x x' y y' : Number} (hx : x.same x' = true) (hy : y.same y' = true) :
    x.lt y = x'.lt y' := by
  obtain ⟨⟨hx, hx'⟩, hkey⟩ := same_iff.mp hx
  obtain ⟨⟨hy, hy'⟩, hkey'⟩ := same_iff.mp hy
  simp only [lt, hx, hx', hy, hy', hkey, hkey']

theorem isZero_of_key_eq_zero {x : Number} (hx : x.isNan = false) (h : x.key = 0) :
    x.isZero = true := by
  cases x with
  | nan => cases hx
  | finite negative rank hr =>
      have h0 : rank = 0 := by
        cases negative <;> simp only [key, Bool.false_eq_true, if_false, if_true] at h <;> omega
      rw [isZero, h0]
      rfl
  | infinite negative => cases negative <;> exact absurd h (by decide)

/-- Apart from zeros, the place of a number determines it. -/
theorem eq_ofRank_key {x : Number} (hx : x.isNan = false) (h : x.key ≠ 0) :
    x = ofRank (decide (x.key < 0)) x.key.natAbs := by
  cases x with
  | nan => cases hx
  | finite negative rank hr =>
      have hlt : decide ((finite negative rank hr).key < 0) = negative := by
        cases negative <;> simp only [key, Bool.false_eq_true, if_false, if_true] at h ⊢ <;> simp
        omega
      have habs : (finite negative rank hr).key.natAbs = rank := by cases negative <;> simp [key]
      rw [hlt, habs, ofRank_of_lt hr]
  | infinite negative => cases negative <;> rfl

/-- Numbers that are the same are equal, except that the zeros are the same. -/
theorem eq_or_isZero_of_same {x y : Number} (h : x.same y = true) :
    x = y ∨ x.isZero = true ∧ y.isZero = true := by
  obtain ⟨⟨hx, hy⟩, hkey⟩ := same_iff.mp h
  by_cases h0 : x.key = 0
  · exact .inr ⟨isZero_of_key_eq_zero hx h0, isZero_of_key_eq_zero hy (hkey ▸ h0)⟩
  · left
    rw [eq_ofRank_key hx h0, eq_ofRank_key hy (hkey ▸ h0), hkey]

theorem toText_of_isZero {x : Number} (h : x.isZero = true) : x.toText = "0" := by
  cases x with
  | nan => cases h
  | finite negative rank hr =>
      have h0 : rank = 0 := by simpa [isZero] using h
      simp [toText, h0]
  | infinite negative => cases h

end Number

/-- The same number, or no number in both cases. -/
def SameReading (a b : Option Number) : Prop := Option.Rel (fun x y => x.same y = true) a b

section

variable {a b c : Option Number}

theorem SameReading.symm (h : SameReading a b) : SameReading b a := by
  cases h with
  | none => exact .none
  | some h => exact .some (Number.same_symm h)

theorem SameReading.trans (h : SameReading a b) (h' : SameReading b c) : SameReading a c := by
  cases h with
  | none => exact h'
  | some h =>
      cases h' with
      | some h' => exact .some (Number.same_trans h h')

theorem SameReading.getD (h : SameReading a b) : (a.getD .zero).same (b.getD .zero) = true := by
  cases h with
  | none => rfl
  | some h => exact h

theorem SameReading.of_eq (h : a = b) (hnan : ∀ x, a = some x → x.isNan = false) :
    SameReading a b := by
  subst h
  cases a with
  | none => exact .none
  | some x => exact .some (Number.same_self (hnan x rfl))

end

/-! ## The text of a number -/

/-- A field that is inferred to be a number is a numeral of a finite number. -/
theorem Cell.of_infer_eq_number {field : String} {x : Number} (h : infer field = .number x) :
    Number.ofNumeral? (Text.trim field.toList) = some x ∧ x.isFinite = true := by
  unfold infer at h
  split at h
  · cases h
  · split at h
    · rename_i hread
      split at h
      · rename_i hx
        cases h
        exact ⟨hread, hx⟩
      · cases h
    · cases h

/-- A field that is inferred to be a number starts with this number. -/
theorem Cell.ofText?_of_infer {field : String} {x : Number} (h : infer field = .number x) :
    Number.ofText? field = some x := by
  obtain ⟨hread, hx⟩ := of_infer_eq_number h
  exact Number.ofText?_of_ofNumeral? hread hx

/-- A finite number is inferred from its text, and zero without its sign. -/
theorem Cell.infer_toText {x : Number} (hx : x.isFinite = true) :
    infer x.toText = .number (if x.isZero then .zero else x) := by
  cases x with
  | nan => cases hx
  | infinite negative => cases hx
  | finite negative rank hr =>
      have hread := Number.ofNumeral?_trim_toText negative rank hr
      have hne := (Number.finite negative rank hr).toText_ne_empty
      have hzero : (Number.finite negative rank hr).isZero = true ↔ rank = 0 := by
        simp [Number.isZero]
      simp only [hzero]
      have hfinite : (if rank = 0 then Number.zero else .finite negative rank hr).isFinite =
          true := by
        split <;> rfl
      simp only [infer, if_neg hne, hread, hfinite, if_true]

theorem Number.same_of_isZero {x : Number} (h : x.isZero = true) : Number.zero.same x = true := by
  cases x with
  | nan => cases h
  | finite negative rank hr =>
      have h0 : rank = 0 := by simpa [isZero] using h
      subst h0
      cases negative <;> rfl
  | infinite negative => cases h

/-- The text of a number is read as the number. -/
theorem Number.sameReading_toText (x : Number) :
    SameReading (ofText? x.toText) (Cell.number x).number? := by
  cases hfinite : x.isFinite with
  | true =>
      have hread := Cell.ofText?_of_infer (Cell.infer_toText hfinite)
      have hnan := isNan_of_isFinite hfinite
      have hnumber : (Cell.number x).number? = some x := by simp [Cell.number?, hnan]
      rw [hread, hnumber]
      refine .some ?_
      split
      · rename_i hzero
        exact same_of_isZero hzero
      · exact same_self hnan
  | false =>
      cases x with
      | nan bits =>
          have hnone : ofText? (nan bits).toText = none := by
            show ofText? "NaN" = none
            decide
          rw [hnone]
          exact .none
      | finite negative rank hr => cases hfinite
      | infinite negative =>
          have hread : ofText? (infinite negative).toText = some (.infinite negative) := by
            cases negative <;> decide
          rw [hread]
          exact .some (same_self rfl)

/-- The text of a cell is read as the number of the cell. -/
theorem Cell.sameReading_toText (c : Cell) : SameReading (Number.ofText? c.toText) c.number? := by
  cases c with
  | empty => exact .none
  | number x => exact x.sameReading_toText
  | text s => exact .of_eq rfl fun x => Number.isNan_of_ofText?

/-- Cells with the same text stand for the same number. -/
theorem Cell.sameReading_of_toText_eq {c d : Cell} (h : c.toText = d.toText) :
    SameReading c.number? d.number? := by
  have hc := c.sameReading_toText
  rw [h] at hc
  exact hc.symm.trans d.sameReading_toText

/-- Numbers have the same text exactly if they are the same. -/
theorem Number.toText_eq_iff {x y : Number} (hx : x.isNan = false) (hy : y.isNan = false) :
    x.toText = y.toText ↔ x.same y = true := by
  constructor
  · intro h
    have hsame : SameReading (Cell.number x).number? (Cell.number y).number? :=
      Cell.sameReading_of_toText_eq h
    simp only [Cell.number?, hx, hy, Bool.false_eq_true, if_false] at hsame
    cases hsame with
    | some hsame => exact hsame
  · intro h
    rcases eq_or_isZero_of_same h with rfl | ⟨hx, hy⟩
    · rfl
    · rw [toText_of_isZero hx, toText_of_isZero hy]

end Tabular
