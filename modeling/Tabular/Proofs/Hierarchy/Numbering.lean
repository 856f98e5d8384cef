import Tabular.Proofs.Hierarchy.Rows
import Tabular.Proofs.Number.Exact
import Tabular.Proofs.Text.Joined

set_option autoImplicit false

/-! # Identifiers tell composite keys apart

The identifiers of a table are the places of its composite keys, in the order in which the keys
first appear (`place_eq_succ_iff`). So rows share an identifier exactly if they share a key, and the
first rows of the identifiers stand in order (`assign_numbers_keys`). As numbers count by one up to
`2^53` only, both need that there are no more keys than that, which no memory holds.

A key joins texts by a bar. It tells the texts apart if the bar occurs in the texts of one column
at most (`same_id_iff_same_texts`); with a bar in two columns rows of other texts can share an
identifier (`Load.groups_of_other_texts_share_identifier`).
-/

namespace Tabular.Hierarchy

section Places

variable {columns : List String} {t : Table}

theorem mem_distinctKeys {r : Record} (hr : r ∈ t) :
    compositeKey columns r ∈ distinctKeys columns t :=
  List.mem_eraseDups.mpr (List.mem_map_of_mem hr)

theorem place_le {r : Record} (hr : r ∈ t) :
    place columns t r ≤ (distinctKeys columns t).length :=
  List.idxOf_lt_length_of_mem (mem_distinctKeys hr)

theorem place_eq_iff {r : Record} (hr : r ∈ t) (s : Record) :
    place columns t r = place columns t s ↔ compositeKey columns r = compositeKey columns s := by
  rw [place, place, Nat.add_right_cancel_iff]
  exact List.idxOf_inj (mem_distinctKeys hr)

theorem place_eq_succ_iff {r : Record} (hr : r ∈ t) {i : Nat}
    (hi : i < (distinctKeys columns t).length) :
    place columns t r = i + 1 ↔ compositeKey columns r = (distinctKeys columns t)[i] := by
  have hplace : (distinctKeys columns t).idxOf (distinctKeys columns t)[i] = i :=
    (nodup_eraseDups _).idxOf_getElem i hi
  rw [place, Nat.add_right_cancel_iff, ← List.idxOf_inj (mem_distinctKeys hr), hplace]

theorem exists_place_eq {i : Nat} (hi : i < (distinctKeys columns t).length) :
    ∃ r ∈ t, place columns t r = i + 1 := by
  have hmem : (distinctKeys columns t)[i] ∈ t.map (compositeKey columns) :=
    List.mem_eraseDups.mp (List.getElem_mem hi)
  obtain ⟨r, hr, hkey⟩ := List.mem_map.mp hmem
  exact ⟨r, hr, (place_eq_succ_iff hr hi).mpr hkey⟩

end Places

/-! ## The columns of identifiers and keys -/

def ids (t : Table) : List Cell := t.map fun r => r.get idColumn

/-- The identifiers number `k` keys, in the order in which they first appear. -/
structure Numbered (k : Nat) (t : Table) : Prop where
  same_id_iff : ∀ r ∈ t, ∀ s ∈ t,
    r.get idColumn = s.get idColumn ↔ r.get keyColumn = s.get keyColumn
  mem_ids_iff : ∀ cell, cell ∈ ids t ↔ ∃ j, 1 ≤ j ∧ j ≤ k ∧ cell = .number (.ofNat j)
  first_lt : ∀ j, 1 ≤ j → j < k →
    (ids t).idxOf (.number (.ofNat j)) < (ids t).idxOf (.number (.ofNat (j + 1)))

section Identifiers

variable {columns : List String} {t : Table}

theorem ids_marked :
    ids (marked columns t) = t.map fun r => .number (.ofNat (place columns t r)) := by
  simp [ids, marked]

/-- Places are small enough to be told apart as numbers. -/
theorem id_eq_iff (hk : (distinctKeys columns t).length ≤ 2 ^ 53) {r : Record} (hr : r ∈ t)
    {j : Nat} (hj : j ≤ (distinctKeys columns t).length) :
    Cell.number (.ofNat (place columns t r)) = .number (.ofNat j) ↔ place columns t r = j := by
  rw [Cell.number.injEq]
  exact Number.ofNat_inj ((place_le hr).trans hk) (hj.trans hk)

theorem same_id_iff_same_key (hk : (distinctKeys columns t).length ≤ 2 ^ 53) {r s : Record}
    (hr : r ∈ t) (hs : s ∈ t) :
    Cell.number (.ofNat (place columns t r)) = .number (.ofNat (place columns t s)) ↔
      compositeKey columns r = compositeKey columns s := by
  rw [id_eq_iff hk hr (place_le hs), place_eq_iff hr]

/-- The first row with an identifier is the first row with its key. -/
theorem idxOf_ids_marked (hk : (distinctKeys columns t).length ≤ 2 ^ 53) {i : Nat}
    (hi : i < (distinctKeys columns t).length) :
    (ids (marked columns t)).idxOf (.number (.ofNat (i + 1))) =
      (t.map (compositeKey columns)).idxOf (distinctKeys columns t)[i] := by
  rw [ids_marked]
  refine idxOf_map_eq fun r hr => ?_
  rw [id_eq_iff hk hr hi, place_eq_succ_iff hr hi]

theorem numbered_marked (hk : (distinctKeys columns t).length ≤ 2 ^ 53) :
    Numbered (distinctKeys columns t).length (marked columns t) where
  same_id_iff := by
    intro r' hr' s' hs'
    obtain ⟨r, hr, rfl⟩ := List.mem_map.mp hr'
    obtain ⟨s, hs, rfl⟩ := List.mem_map.mp hs'
    rw [get_mark_id, get_mark_id, get_mark_key, get_mark_key, Cell.text.injEq]
    exact same_id_iff_same_key hk hr hs
  mem_ids_iff := by
    intro cell
    rw [ids_marked, List.mem_map]
    constructor
    · rintro ⟨r, hr, rfl⟩
      exact ⟨place columns t r, Nat.succ_pos _, place_le hr, rfl⟩
    · rintro ⟨j, hpos, hj, rfl⟩
      obtain ⟨i, rfl⟩ : ∃ i, j = i + 1 := ⟨j - 1, by omega⟩
      obtain ⟨r, hr, hplace⟩ := exists_place_eq hj
      exact ⟨r, hr, by rw [hplace]⟩
  first_lt := by
    intro j hpos hj
    obtain ⟨i, rfl⟩ : ∃ i, j = i + 1 := ⟨j - 1, by omega⟩
    -- Identifiers stand in the order of the keys, which are in the order in which they first
    -- appear.
    rw [idxOf_ids_marked hk (Nat.lt_of_succ_lt hj), idxOf_ids_marked hk hj]
    exact List.pairwise_iff_getElem.mp (pairwise_idxOf_eraseDups _) i (i + 1) _ _ i.lt_succ_self

end Identifiers

/-! ## Numbering a table, and numbering it again -/

section Again

variable {columns : List String} (hk : keyColumn ∉ columns) (hi : idColumn ∉ columns) (t : Table)
include hk hi

theorem distinctKeys_marked :
    distinctKeys columns (marked columns t) = distinctKeys columns t := by
  rw [distinctKeys, marked, List.map_map]
  exact congrArg List.eraseDups (List.map_congr_left fun r _ => compositeKey_mark r _ _ hk hi)

theorem place_mark (r : Record) (key : String) (id : Nat) :
    place columns (marked columns t) (mark r key id) = place columns t r := by
  rw [place, distinctKeys_marked hk hi, compositeKey_mark r _ _ hk hi, place]

/-- Composite keys of other columns stay, and so do their places. -/
theorem marked_marked : marked columns (marked columns t) = marked columns t := by
  have hrow : ∀ r, mark (mark r (compositeKey columns r) (place columns t r))
      (compositeKey columns (mark r (compositeKey columns r) (place columns t r)))
      (place columns (marked columns t) (mark r (compositeKey columns r) (place columns t r))) =
        mark r (compositeKey columns r) (place columns t r) := by
    intro r
    rw [place_mark hk hi, compositeKey_mark r _ _ hk hi, mark_mark]
  exact List.map_map.trans (List.map_congr_left fun r _ => hrow r)

end Again

/-- A row with its key in text, and with its cells under other names. -/
structure MarkedFrom (columns : List String) (r r' : Record) : Prop where
  key : r'.get keyColumn = .text (compositeKey columns r)
  others : ∀ name, name ≠ keyColumn → name ≠ idColumn →
    r'.cells.lookup name = r.cells.lookup name

/-- Rows keep their order and their cells under other names, and are numbered by their composite
keys, as far as numbers count by one. Keys of other columns give the same numbers again. -/
theorem assign_numbers_keys {columns : List String} (hc : columns ≠ []) (t : Table) :
    ∃ t', assign columns t = .ok t' ∧ List.Forall₂ (MarkedFrom columns) t t' ∧
      ((distinctKeys columns t).length ≤ 2 ^ 53 → Numbered (distinctKeys columns t).length t') ∧
      (keyColumn ∉ columns → idColumn ∉ columns → assign columns t' = .ok t') := by
  refine ⟨_, assign_eq_ok hc t, forall₂_marked fun r id => ?_, numbered_marked, fun hk hi => ?_⟩
  · exact ⟨get_mark_key r _ id, fun name hk hi => lookup_mark_of_ne r _ id hk hi⟩
  · rw [assign_eq_ok hc, marked_marked hk hi]

/-- Four rows with three keys: a text with a bar, a missing cell, and a number like its text. -/
theorem assign_numbers_keys_of_regions :
    let t : Table := [
      Record.ofList [("region", .text "EU|N"), ("team", .number (.ofNat 7))],
      Record.ofList [("team", .text "A"), ("size", .empty)],
      Record.ofList [("team", .text "7"), ("region", .text "EU|N")],
      Record.ofList [("region", .text ""), ("team", .text "B"), ("ID", .text "x")]]
    ["region", "team"] ≠ [] ∧ (distinctKeys ["region", "team"] t).length = 3 ∧
      ∃ t', assign ["region", "team"] t = .ok t' ∧
        List.Forall₂ (MarkedFrom ["region", "team"]) t t' ∧ Numbered 3 t' ∧
        assign ["region", "team"] t' = .ok t' := by
  intro t
  have hc : ["region", "team"] ≠ [] := by decide
  have hlength : (distinctKeys ["region", "team"] t).length = 3 := by decide +kernel
  obtain ⟨t', hassign, hrows, hnumbered, hagain⟩ := assign_numbers_keys hc t
  rw [hlength] at hnumbered
  exact ⟨hc, hlength, t', hassign, hrows, hnumbered (by decide), hagain (by decide) (by decide)⟩

/-! ## Groups of rows with the same texts -/

theorem compositeKey_eq_iff {columns : List String} {free : String} {r s : Record}
    (hr : ∀ name ∈ columns, name ≠ free → '|' ∉ (r.text name).toList)
    (hs : ∀ name ∈ columns, name ≠ free → '|' ∉ (s.text name).toList) :
    compositeKey columns r = compositeKey columns s ↔
      ∀ name ∈ columns, r.text name = s.text name := by
  constructor
  · exact Text.eq_of_intercalate_eq_of_free rfl hr hs
  · intro htexts
    rw [compositeKey, compositeKey, List.map_congr_left htexts]

/-- If the bar occurs in the texts of one column at most, rows share an identifier exactly if
they have the same text in every chosen column. -/
theorem same_id_iff_same_texts {columns : List String} (hc : columns ≠ []) {t : Table}
    (hk : (distinctKeys columns t).length ≤ 2 ^ 53) (free : String)
    (hbar : ∀ r ∈ t, ∀ name ∈ columns, name ≠ free → '|' ∉ (r.text name).toList) :
    ∃ t', assign columns t = .ok t' ∧ t'.length = t.length ∧
      ∀ p ∈ t.zip t', ∀ q ∈ t.zip t',
        p.2.get idColumn = q.2.get idColumn ↔ ∀ name ∈ columns, p.1.text name = q.1.text name := by
  refine ⟨_, assign_eq_ok hc t, List.length_map _, ?_⟩
  rw [marked, ← List.map_prod_left_eq_zip]
  intro p hp q hq
  obtain ⟨r, hr, rfl⟩ := List.mem_map.mp hp
  obtain ⟨s, hs, rfl⟩ := List.mem_map.mp hq
  rw [get_mark_id, get_mark_id, same_id_iff_same_key hk hr hs]
  exact compositeKey_eq_iff (hbar r hr) (hbar s hs)

/-- The bar occurs under `a`, and the number `1` has the text of the text `1`. -/
theorem same_id_iff_same_texts_with_bars :
    let t : Table := [
      Record.ofList [("a", .text "x|y"), ("b", .number (.ofNat 1))],
      Record.ofList [("a", .text "x"), ("b", .text "y")],
      Record.ofList [("b", .text "1"), ("a", .text "x|y")]]
    ["a", "b"] ≠ [] ∧ (distinctKeys ["a", "b"] t).length ≤ 2 ^ 53 ∧
      (∀ r ∈ t, ∀ name ∈ ["a", "b"], name ≠ "a" → '|' ∉ (r.text name).toList) ∧
      ∃ t', assign ["a", "b"] t = .ok t' ∧ t'.length = t.length ∧
        ∀ p ∈ t.zip t', ∀ q ∈ t.zip t', p.2.get idColumn = q.2.get idColumn ↔
          ∀ name ∈ ["a", "b"], p.1.text name = q.1.text name := by
  intro t
  have hc : ["a", "b"] ≠ [] := by decide
  have hk : (distinctKeys ["a", "b"] t).length ≤ 2 ^ 53 := by decide +kernel
  have hbar : ∀ r ∈ t, ∀ name ∈ ["a", "b"], name ≠ "a" → '|' ∉ (r.text name).toList := by
    decide +kernel
  exact ⟨hc, hk, hbar, same_id_iff_same_texts hc hk "a" hbar⟩

end Tabular.Hierarchy

namespace Tabular

/-- Bars at the end of one text and at the start of the next one look the same in a key. -/
theorem Load.groups_of_other_texts_share_identifier :
    let r : Record := Record.ofList [("a", .text "x|y"), ("b", .text "z")]
    let s : Record := Record.ofList [("a", .text "x"), ("b", .text "y|z")]
    let added : List (String × Cell) :=
      [("UniqueKey", .text "x|y|z"), ("ID", .number (.ofNat 1))]
    Load.delimited {} ',' "a,b\nx|y,z\nx,y|z\n".toUTF8 = .ok [r, s] ∧
      Hierarchy.assign ["a", "b"] [r, s] =
        .ok [Record.ofList (r.cells ++ added), Record.ofList (s.cells ++ added)] ∧
      r.text "a" ≠ s.text "a" ∧ r.text "b" ≠ s.text "b" := by
  decide +kernel

end Tabular
