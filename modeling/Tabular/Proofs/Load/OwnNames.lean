import Tabular.Proofs.Load.Columns

set_option autoImplicit false

/-! # Names that only one cell asks for

A header cell with a text of its own (`Header.OwnName`) gives its column this text as the name, if no
column before it has got the name already (`own_name_kept_iff`). A column can only get the name of
another cell by a number: as the position of a blank cell, or behind a text that is taken. So a text
that does not end in an underscore and a number is always kept, while others can be lost to a
generated name (`Load.own_name_given_to_blank`).
-/

namespace Tabular

namespace Header

open Text

/-- The cell at a position asks for a name that no other cell of the header row asks for. -/
structure OwnName (cells : List String) (i : Nat) (name : String) : Prop where
  of_cell : cells[i]?.map trimmed = some name
  ne_empty : name ≠ ""
  unlike : ∀ other ∈ cells.eraseIdx i, trimmed other ≠ name

/-- A name that the column at a position gets by a number, among the names of the columns. -/
inductive ByNumber (columns : List String) (j : Nat) (cell name : String) : Prop where
  /-- The cell is blank, and the name is that of its position or a variant of it. -/
  | blank (n : Nat) (hcell : trimmed cell = "") (hname : name = variant (numbered (j + 1)) n)
  /-- The text of the cell is taken, and the name is the text with a number. -/
  | taken (n : Nat) (hcell : trimmed cell ∈ columns.take j) (hn : n ≠ 0)
      (hname : name = variant (trimmed cell) n)

/-- A name by a number ends in an underscore and a number. -/
theorem ByNumber.exists_eq {columns : List String} {j : Nat} {cell name : String}
    (h : ByNumber columns j cell name) :
    ∃ (base : String) (n : Nat), name = base ++ "_" ++ toString n := by
  cases h with
  | blank n _ hname =>
      by_cases hn : n = 0
      · refine ⟨"column", j + 1, ?_⟩
        rw [hname, hn, variant, if_pos rfl]
        rfl
      · exact ⟨_, n, by rw [hname, variant, if_neg hn]⟩
  | taken n _ hn hname => exact ⟨_, n, by rw [hname, variant, if_neg hn]⟩

variable {cells columns : List String} {i : Nat} {name : String}

/-- The column of a cell with a name of its own has the name or a variant of it. -/
theorem OwnName.exists_variant (h : OwnName cells i name) (hn : Named cells columns) :
    ∃ n, columns[i]? = some (variant name n) ∧ (n = 0 ↔ name ∉ columns.take i) := by
  obtain ⟨cell, hcell, hname⟩ := Option.map_eq_some_iff.mp h.of_cell
  have hwanted : wanted (i + 1) cell = name :=
    (wanted_of_ne (by rw [hname]; exact h.ne_empty) _).trans hname
  obtain ⟨n, hi, hfree, hfirst⟩ := hn.first_variant i cell hcell
  rw [hwanted] at hi hfree hfirst
  refine ⟨n, hi, ?_, fun hname => ?_⟩
  · rintro rfl
    exact hfree
  · by_contra hpos
    exact hname (hfirst 0 (Nat.pos_of_ne_zero hpos))

/-- Another column has the name by a number only. -/
theorem OwnName.byNumber (h : OwnName cells i name) (hn : Named cells columns) {j : Nat}
    (hj : j ≠ i) {cell : String} (hcell : cells[j]? = some cell)
    (hname : columns[j]? = some name) : ByNumber columns j cell name := by
  obtain ⟨n, hvariant, -, hfirst⟩ := hn.first_variant j cell hcell
  obtain rfl : variant (wanted (j + 1) cell) n = name := by
    rw [hvariant] at hname
    exact Option.some.inj hname
  by_cases hblank : trimmed cell = ""
  · refine .blank n hblank ?_
    simp only [wanted, if_pos hblank]
  · have hunlike := h.unlike cell (List.mem_eraseIdx_iff_getElem?.mpr ⟨j, hj, hcell⟩)
    rw [wanted_of_ne hblank] at hunlike hfirst ⊢
    have hpos : n ≠ 0 := fun hzero => hunlike (variant_eq_self_iff.mpr hzero).symm
    exact .taken n (hfirst 0 (Nat.pos_of_ne_zero hpos)) hpos rfl

/-- A cell with a name of its own gives its column this name exactly if no column before it has got
it; otherwise the name is followed by a number. A column gets the name of another cell by a number
only, so that a name that does not end in an underscore and a number is kept in every header row. -/
theorem own_name_kept_iff (h : OwnName cells i name) :
    ((names cells)[i]? = some name ↔ name ∉ (names cells).take i) ∧
      (name ∈ (names cells).take i → ∃ n ≠ 0, (names cells)[i]? = some (variant name n)) ∧
      (∀ (j : Nat) cell, j ≠ i → cells[j]? = some cell → (names cells)[j]? = some name →
        ByNumber (names cells) j cell name) ∧
      ((∀ (base : String) (n : Nat), name ≠ base ++ "_" ++ toString n) →
        (names cells)[i]? = some name) := by
  have hn := named_names cells
  obtain ⟨n, hi, hzero⟩ := h.exists_variant hn
  have hkept : (names cells)[i]? = some name ↔ name ∉ (names cells).take i := by
    rw [← hzero, hi, Option.some.injEq]
    exact variant_eq_self_iff
  refine ⟨hkept, fun hmem => ⟨n, fun h0 => hzero.mp h0 hmem, hi⟩,
    fun j cell hj hcell hname => h.byNumber hn hj hcell hname, fun hform => hkept.mpr fun hmem => ?_⟩
  -- The column before it that has the name has it by a number.
  obtain ⟨j, hj, hname⟩ := List.mem_take_iff_getElem.mp hmem
  have hlt : j < i := by omega
  have hbound : j < cells.length := by
    rw [← hn.length_eq]
    omega
  have hcolumn : (names cells)[j]? = some name := List.getElem?_eq_some_iff.mpr ⟨by omega, hname⟩
  obtain ⟨base, m, he⟩ :=
    (h.byNumber hn (Nat.ne_of_lt hlt) (List.getElem?_eq_getElem hbound) hcolumn).exists_eq
  exact hform base m he

/-- A name with a number that stands in front of the repeats; their numbers go around it. -/
theorem own_name_kept_among_repeats :
    let cells := ["a", " a_2 ", "", "a", "a", "a_2_1"]
    OwnName cells 1 "a_2" ∧
      names cells = ["a", "a_2", "column_3", "a_1", "a_3", "a_2_1"] ∧
      (names cells)[1]? = some "a_2" := by
  intro cells
  have h : OwnName cells 1 "a_2" := ⟨by decide, by decide, by decide⟩
  exact ⟨h, by decide +kernel, (own_name_kept_iff h).1.mpr (by decide +kernel)⟩

end Header

/-- The blank cell in front takes the name of the second cell, so that this name of the file refers
to the other column. -/
theorem Load.own_name_given_to_blank :
    Header.OwnName ["", "column_1"] 1 "column_1" ∧
      Header.names ["", "column_1"] = ["column_1", "column_1_1"] ∧
      Load.delimited {} ',' ",column_1\nx,y\n".toUTF8 =
        .ok [Record.ofList [("column_1", .text "x"), ("column_1_1", .text "y")]] :=
  ⟨⟨by decide, by decide, by decide⟩, by decide +kernel, by decide +kernel⟩

end Tabular
