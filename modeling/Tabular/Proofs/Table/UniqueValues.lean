import Tabular.Proofs.Number.Bits
import Tabular.Proofs.Number.Reading
import Tabular.Proofs.Table.Firsts
import Tabular.Reshape

set_option autoImplicit false

/-! # The different values of a column

Cells are told apart by a key, and two cells have the same key just if they hold the same value
(`Cell.raw_eq_iff`): the same text, numbers that are equal, or NaNs with the same bits. So the unique
values of a column are the cells whose value no row in front of them holds, each of which is kept as
it is (`Table.unique_keeps_first_values`).
-/

namespace Tabular

/-! ## Values -/

/-- The cells hold the same value. Cells of different kinds never do; NaNs equal no number, and are
the same if their bits are. -/
inductive Cell.SameValue : Cell → Cell → Prop
  | empty : SameValue .empty .empty
  | text (s : String) : SameValue (.text s) (.text s)
  | number {x y : Number} (h : x.same y = true) : SameValue (.number x) (.number y)
  | nan {x y : Number} (hx : x.isNan = true) (hy : y.isNan = true) (h : x.bits = y.bits) :
      SameValue (.number x) (.number y)

namespace Number

variable {x y : Number}

theorem isZero_of_isNan (h : x.isNan = true) : x.isZero = false := by
  cases x with
  | nan bits => rfl
  | finite negative rank hr => cases h
  | infinite negative => cases h

/-- The bits by which a number is told apart. -/
def rawBits (x : Number) : Nat := if x.isZero then zero.bits else x.bits

theorem rawBits_of_isZero (h : x.isZero = true) : x.rawBits = zero.bits := by
  rw [rawBits, if_pos h]

theorem rawBits_of_not_isZero (h : x.isZero = false) : x.rawBits = x.bits := by
  rw [rawBits, h]
  rfl

/-- Only zeros have the bits of zero. -/
theorem isZero_of_rawBits_eq (h : x.rawBits = zero.bits) : x.isZero = true := by
  cases hx : x.isZero with
  | true => rfl
  | false =>
      rw [rawBits_of_not_isZero hx] at h
      rw [bits_injective h] at hx
      cases hx

theorem rawBits_eq_of_same (h : x.same y = true) : x.rawBits = y.rawBits := by
  rcases eq_or_isZero_of_same h with rfl | ⟨hx, hy⟩
  · rfl
  · rw [rawBits_of_isZero hx, rawBits_of_isZero hy]

theorem rawBits_eq_of_isNan (hx : x.isNan = true) (hy : y.isNan = true) (h : x.bits = y.bits) :
    x.rawBits = y.rawBits := by
  rw [rawBits_of_not_isZero (isZero_of_isNan hx), rawBits_of_not_isZero (isZero_of_isNan hy), h]

/-- Numbers with the same key are both zeros, or the same to the bit. -/
theorem isZero_or_eq_of_rawBits_eq (h : x.rawBits = y.rawBits) :
    (x.isZero = true ∧ y.isZero = true) ∨ x = y := by
  cases hx : x.isZero with
  | true =>
      left
      rw [rawBits_of_isZero hx] at h
      exact ⟨rfl, isZero_of_rawBits_eq h.symm⟩
  | false =>
      cases hy : y.isZero with
      | true =>
          rw [rawBits_of_isZero hy] at h
          rw [isZero_of_rawBits_eq h] at hx
          cases hx
      | false =>
          right
          rw [rawBits_of_not_isZero hx, rawBits_of_not_isZero hy] at h
          exact bits_injective h

end Number

namespace Cell

variable {c d : Cell}

theorem sameValue_of_rawBits_eq {x y : Number} (h : x.rawBits = y.rawBits) :
    SameValue (.number x) (.number y) := by
  rcases Number.isZero_or_eq_of_rawBits_eq h with ⟨hx, hy⟩ | rfl
  · exact .number (Number.same_trans (Number.same_symm (Number.same_of_isZero hx))
      (Number.same_of_isZero hy))
  · cases hnan : x.isNan with
    | true => exact .nan hnan hnan rfl
    | false => exact .number (Number.same_self hnan)

/-- The keys of cells are equal exactly if the cells hold the same value. -/
theorem raw_eq_iff : c.raw = d.raw ↔ c.SameValue d := by
  constructor
  · -- The key of a cell shows its kind.
    intro h
    cases c with
    | empty =>
        cases d with
        | empty => exact .empty
        | number y => cases h
        | text s => cases h
    | number x =>
        cases d with
        | empty => cases h
        | number y =>
            injection h with h
            exact sameValue_of_rawBits_eq h
        | text s => cases h
    | text s =>
        cases d with
        | empty => cases h
        | number y => cases h
        | text s' =>
            injection h with h
            rw [h]
            exact .text s'
  · intro h
    cases h with
    | empty => rfl
    | text s => rfl
    | number h => exact congrArg RawKey.number (Number.rawBits_eq_of_same h)
    | nan hx hy h => exact congrArg RawKey.number (Number.rawBits_eq_of_isNan hx hy h)

instance : DecidableRel Cell.SameValue := fun _ _ => decidable_of_iff _ raw_eq_iff

end Cell

/-! ## Unique values -/

namespace Table

/-- No row in front of this one holds the value that it has in the column. -/
def HoldsFirst (t : Table) (column : String) (p : Record × Nat) : Prop :=
  ∀ q ∈ t.zipIdx, q.2 < p.2 → ¬ (q.1.get column).SameValue (p.1.get column)

instance (t : Table) (column : String) : DecidablePred (t.HoldsFirst column) := fun p =>
  inferInstanceAs (Decidable (∀ q ∈ t.zipIdx, q.2 < p.2 →
    ¬ (q.1.get column).SameValue (p.1.get column)))

def valueRecord (c : Cell) : Record := Record.empty.put uniqueColumn c

theorem get_valueRecord (c : Cell) : (valueRecord c).get uniqueColumn = c :=
  Record.get_put_self Record.empty uniqueColumn c

def uniqueCells (t : Table) (column : String) : List Cell :=
  firstsBy Cell.raw [] (t.map fun r => r.get column)

theorem unique_eq (t : Table) (column : String) :
    t.unique column = (t.uniqueCells column).map valueRecord := rfl

theorem map_get_unique (t : Table) (column : String) :
    (t.unique column).map (fun r => r.get uniqueColumn) = t.uniqueCells column := by
  rw [unique_eq, List.map_map]
  calc (t.uniqueCells column).map ((fun r => r.get uniqueColumn) ∘ valueRecord)
      = (t.uniqueCells column).map id := List.map_congr_left fun c _ => get_valueRecord c
    _ = t.uniqueCells column := List.map_id _

theorem firstOfKey_raw_iff (t : Table) (column : String) (p : Record × Nat) :
    FirstOfKey (fun r : Record => (r.get column).raw) t p ↔ t.HoldsFirst column p := by
  unfold FirstOfKey HoldsFirst
  simp only [ne_eq, Cell.raw_eq_iff]

theorem uniqueCells_eq_filter (t : Table) (column : String) :
    t.uniqueCells column =
      (t.zipIdx.filter fun p => t.HoldsFirst column p).map fun p => p.1.get column := by
  have hfirst : t.uniqueCells column =
      (firstsBy (fun r : Record => (r.get column).raw) [] t).map fun r => r.get column :=
    (firstsBy_map Cell.raw (fun r : Record => r.get column) [] t).symm
  rw [hfirst, firstsBy_eq_filter, List.map_map]
  simp only [firstOfKey_raw_iff]
  rfl

theorem pairwise_uniqueCells (t : Table) (column : String) :
    (t.uniqueCells column).Pairwise fun c d => ¬ c.SameValue d := by
  refine (pairwise_firstsBy Cell.raw [] _).imp ?_
  intro c d hne hsame
  exact hne (Cell.raw_eq_iff.mpr hsame)

theorem exists_mem_unique {t : Table} {column : String} {r : Record} (hr : r ∈ t) :
    ∃ u ∈ t.unique column, (u.get uniqueColumn).SameValue (r.get column) := by
  obtain ⟨c, hc, hkey⟩ := exists_mem_firstsBy Cell.raw
    (List.mem_map_of_mem (f := fun r : Record => r.get column) hr)
  refine ⟨valueRecord c, List.mem_map_of_mem hc, ?_⟩
  rw [get_valueRecord]
  exact Cell.raw_eq_iff.mp hkey

/-- A list of different values is left as it is. -/
theorem unique_unique (t : Table) (column : String) :
    (t.unique column).unique uniqueColumn = t.unique column := by
  have hkept : (t.unique column).uniqueCells uniqueColumn = t.uniqueCells column := by
    rw [uniqueCells, map_get_unique]
    exact firstsBy_eq_self (pairwise_firstsBy Cell.raw [] _) fun _ _ => List.not_mem_nil
  rw [unique_eq, hkept, unique_eq]

/-- The unique values of a column are the cells of the rows whose value no row in front of them
holds, in the order of the rows, each as the only cell of a record. So each row holds one of the
values, no two of them are the same, and they are their own unique values. -/
theorem unique_keeps_first_values (t : Table) (column : String) :
    (∀ u ∈ t.unique column, u.cells = [(uniqueColumn, u.get uniqueColumn)]) ∧
      (t.unique column).map (fun u => u.get uniqueColumn) =
        ((t.zipIdx.filter fun p => t.HoldsFirst column p).map fun p => p.1.get column) ∧
      (∀ r ∈ t, ∃ u ∈ t.unique column, (u.get uniqueColumn).SameValue (r.get column)) ∧
      ((t.unique column).Pairwise fun u v =>
        ¬ (u.get uniqueColumn).SameValue (v.get uniqueColumn)) ∧
      (t.unique column).unique uniqueColumn = t.unique column := by
  refine ⟨?_, ?_, fun r => exists_mem_unique, ?_, t.unique_unique column⟩
  · intro u hu
    obtain ⟨c, -, rfl⟩ := List.mem_map.mp hu
    show (valueRecord c).cells = [(uniqueColumn, (valueRecord c).get uniqueColumn)]
    rw [get_valueRecord]
    rfl
  · rw [map_get_unique, uniqueCells_eq_filter]
  · have hpairs := t.pairwise_uniqueCells column
    rw [← map_get_unique, List.pairwise_map] at hpairs
    exact hpairs

/-- A number, its text, the two zeros and two NaNs with different bits. -/
example :
    let t : Table := [.number .zero, .text "0", .number .negativeZero, .number .nan, .empty,
      .number (.nan (.quiet true)), .number .nan, .text ""].map fun c => Record.ofList [("v", c)]
    (t.unique "v").map (fun u => u.get uniqueColumn) = [.number .zero, .text "0", .number .nan,
      .empty, .number (.nan (.quiet true)), .text ""] := by
  decide +kernel

end Table

end Tabular
