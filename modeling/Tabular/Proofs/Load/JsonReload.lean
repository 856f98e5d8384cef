import Tabular.Export
import Tabular.Load
import Tabular.Proofs.Json.Table
import Tabular.Proofs.Load.Rows
import Tabular.Proofs.Text.Utf8

set_option autoImplicit false

/-! # Loading a JSON export

A JSON export has the headers of the table under each record, so the loaded table has a record for
each one of the table and exactly these keys in it (`Load.exists_json_reload`). Blank cells and
missing ones are loaded empty; all others as they are restored from a stored table.

A finite number is loaded as a finite number of the same sign, and as the same one as long as its
digits are kept (`Load.exists_json_reload_number`). A whole number of sixteen digits need not be:
with the zero behind its point it is a number of seventeen digits, which are rounded before the
point is put back (`Load.json_reload_of_sixteen_digits`).
-/

namespace Tabular

open Json

/-! ## Cells -/

/-- What a cell is after it has been exported as JSON and loaded: a blank one is empty. -/
def Cell.ReloadedAs (c d : Cell) : Prop := if c.isBlank then d = .empty else c.RestoredAs d

theorem Cell.reloadedAs_ofForeign {c d : Cell} {j : Json} (hj : ofStored? j = some d)
    (hd : c.RestoredAs d) : c.ReloadedAs (ofForeign j) := by
  -- Only values that store a cell are left.
  cases j with
  | bool b => cases hj
  | array items => cases hj
  | object members => cases hj
  | null =>
      cases hj
      cases hd with
      | empty => rfl
      | missing hx => exact .missing hx
  | number n =>
      obtain rfl : Cell.number n.toNumber = d := Option.some.inj hj
      -- The number of the cell may come from another numeral.
      show c.ReloadedAs (.number n.toNumber)
      generalize n.toNumber = y at hd ⊢
      cases hd with
      | number hx h => exact .number hx h
  | string s =>
      cases hj
      cases hd
      by_cases hs : s = ""
      · subst hs
        rfl
      · have hb : (Cell.text s).isBlank = false := by simp [isBlank, hs]
        have hf : ofForeign (.string s) = .text s := by simp [ofForeign, hs]
        rw [ReloadedAs, hb, hf]
        exact .text s

/-- A finite number is reloaded as its text says. -/
theorem Cell.ReloadedAs.eq_number {negative : Bool} {rank : Nat} {hr : rank < infiniteRank}
    {d : Cell} (h : (Cell.number (.finite negative rank hr)).ReloadedAs d) {n : Numeral}
    (hn : parse ((numberText (.finite negative rank hr)).map some) = .ok (.number n)) :
    d = .number n.toNumber := by
  have hrestored : (Cell.number (.finite negative rank hr)).RestoredAs d := h
  cases hrestored with
  | missing hx => cases hx
  | number _ hread =>
      rw [hn] at hread
      cases hread
      rfl

theorem Cell.exists_reads_readForeign (c : Cell) :
    ∃ d, c.ReloadedAs d ∧ ∀ (w : Spacing) (level depth : Nat),
      Reads (readForeign depth) (w.text level c.toJson) d := by
  obtain ⟨j, d, hj, hd, hread⟩ := c.exists_reads_toJson
  refine ⟨ofForeign j, reloadedAs_ofForeign hj hd, fun w level depth => ?_⟩
  refine ⟨(hread w level depth).starts, fun gap hg rest hr => ?_⟩
  simp only [readForeign, (hread w level depth).reads gap hg rest hr, bind, Except.bind]

/-! ## Tables -/

/-- A record with exactly the given keys, and under each what the cell is reloaded as. -/
def Record.ReloadedAs (keys : List String) (r s : Record) : Prop :=
  s.keys = keys ∧ ∀ key ∈ keys, (r.get key).ReloadedAs (s.get key)

theorem Record.exists_reads_export {keys : List String} (hk : keys.Nodup) (r : Record) :
    ∃ s, r.ReloadedAs keys s ∧ ∀ (w : Spacing) (level depth : Nat),
      Reads (Record.read Cell.readForeign (depth + 1))
        (w.text level (.object (keys.map fun key => (key, (r.get key).toJson)))) s := by
  choose reloaded hreloaded hreads using Cell.exists_reads_readForeign
  have hkeys : (keys.map fun key => (key, reloaded (r.get key))).map Prod.fst = keys := by
    rw [List.map_map]
    exact List.map_id keys
  have hnodup := hkeys.symm ▸ hk
  refine ⟨⟨keys.map fun key => (key, reloaded (r.get key)), hnodup⟩, ⟨hkeys, ?_⟩, ?_⟩
  · intro key hkey
    have hmem : (key, reloaded (r.get key)) ∈ keys.map fun key => (key, reloaded (r.get key)) :=
      List.mem_map_of_mem hkey
    have hget : Record.get ⟨keys.map fun key => (key, reloaded (r.get key)), hnodup⟩ key =
        reloaded (r.get key) :=
      get_of_mem hmem
    rw [hget]
    exact hreloaded (r.get key)
  · intro w level depth
    refine reads_read ?_
    show List.Forall₂ _ _ (keys.map fun key => (key, reloaded (r.get key)))
    rw [List.forall₂_map_left_iff, List.forall₂_map_right_iff, List.forall₂_same]
    intro key _
    exact ⟨rfl, hreads (r.get key) w (level + 1) depth⟩

theorem Table.nodup_headers (t : Table) : t.headers.Nodup := by
  cases t with
  | nil => exact List.nodup_nil
  | cons r t => exact r.nodup_keys

/-- The JSON of an exported table is read record by record. -/
theorem Table.exists_ofForeign_export (t : Table) :
    ∃ reloaded : Record → Record, (∀ r : Record, r.ReloadedAs t.headers (reloaded r)) ∧
      ofForeign (Text.symbolsOf (Export.json t).prettyText) = .ok (t.map reloaded) := by
  choose reloaded hreloaded hreads using Record.exists_reads_export t.nodup_headers
  refine ⟨reloaded, hreloaded, ?_⟩
  have hread : Reads (readArray maxDepth (Record.read Cell.readForeign))
      (Spacing.lines.text 0 (Export.json t)) (t.map reloaded) := by
    refine reads_array ?_
    rw [List.forall₂_map_left_iff, List.forall₂_map_right_iff, List.forall₂_same]
    intro r _
    exact hreads r .lines 1 125
  rw [prettyText, Text.symbolsOf, String.toList_ofList]
  exact hread.whole_eq

/-! ## Files -/

namespace Load

theorem render_json {t : Table} (ht : t ≠ []) :
    Export.render .json t = .ok (.text (Export.json t).prettyText) := by
  simp [Export.render, ht]

/-- A table that has records is loaded without a limit of rows. -/
theorem json_of_ofForeign {o : Options} (ho : o.maxRows = none) {s : String} {u : Table}
    (hu : u ≠ []) (h : Table.ofForeign (Text.symbolsOf s) = .ok u) :
    json o (Rendering.text s).bytes = .ok u := by
  have hlimit : o.limit u = u := by rw [Options.limit, ho]
  rw [json, Rendering.bytes, Text.symbols_toUTF8, h]
  simp only [hlimit]
  exact nonEmpty_of_ne_nil hu

/-- An exported table is loaded record by record: as many records, each with exactly the headers of
the table in their order, and under each header what the cell is reloaded as. -/
theorem exists_json_reload {o : Options} (ho : o.maxRows = none) {t : Table} (ht : t ≠ []) :
    ∃ text u, Export.render .json t = .ok (.text text) ∧
      json o (Rendering.text text).bytes = .ok u ∧ u.length = t.length ∧
      List.Forall₂ (Record.ReloadedAs t.headers) t u := by
  obtain ⟨reloaded, hreloaded, hread⟩ := Table.exists_ofForeign_export t
  refine ⟨_, t.map reloaded, render_json ht, json_of_ofForeign ho (by simpa using ht) hread,
    List.length_map reloaded, ?_⟩
  rw [List.forall₂_map_right_iff, List.forall₂_same]
  intro r _
  exact hreloaded r

/-- A table whose second record lacks a column and has one of its own. -/
theorem exists_json_reload_of_ragged :
    let t : Table := [
      Record.ofList [("n", .number (Number.ofDecimal false 55 (-1))), ("s", .text "\"\n\u0001é")],
      Record.ofList [("s", .text ""), ("x", .number .nan)]]
    t ≠ [] ∧ ∃ text u, Export.render .json t = .ok (.text text) ∧
      json {} (Rendering.text text).bytes = .ok u ∧ u.length = t.length ∧
      List.Forall₂ (Record.ReloadedAs t.headers) t u := by
  intro t
  have ht : t ≠ [] := List.cons_ne_nil _ _
  have ho : ({} : Options).maxRows = none := rfl
  exact ⟨ht, exists_json_reload ho ht⟩

/-- A finite number is loaded as a finite number of the same sign, and as the same one if its digits
are kept. -/
theorem exists_json_reload_number {o : Options} (ho : o.maxRows = none) {t : Table} {i : Nat}
    {r : Record} (hr : t[i]? = some r) {key : String} (hk : key ∈ t.headers) {negative : Bool}
    {rank : Nat} {hrank : rank < infiniteRank}
    (hc : r.get key = .number (.finite negative rank hrank)) :
    ∃ text u s q, ∃ hq : q < infiniteRank, Export.render .json t = .ok (.text text) ∧
      json o (Rendering.text text).bytes = .ok u ∧ u[i]? = some s ∧
      s.get key = .number (.finite negative q hq) ∧ (KeepsDigits rank → q = rank) := by
  obtain ⟨reloaded, hreloaded, hread⟩ := Table.exists_ofForeign_export t
  obtain ⟨q, hq, hkeep, hparse⟩ := exists_parse_numberText negative hrank
  have ht : t ≠ [] := by
    rintro rfl
    cases hr
  have hs : (t.map reloaded)[i]? = some (reloaded r) := by rw [List.getElem?_map, hr]; rfl
  have hcell : (reloaded r).get key = .number (.finite negative q hq) := by
    have hrestored := (hreloaded r).2 key hk
    rw [hc] at hrestored
    exact hrestored.eq_number hparse
  exact ⟨_, t.map reloaded, reloaded r, q, hq, render_json ht,
    json_of_ofForeign ho (by simpa using ht) hread, hs, hcell, hkeep⟩

/-- The digits of five and a half are kept. -/
theorem exists_json_reload_fraction :
    let x : Number := .finite true 4617878467915022336 (by decide)
    let r : Record := Record.ofList [("n", .number x)]
    let t : Table := [Record.ofList [("n", .empty)], r]
    r.get "n" = .number x ∧ KeepsDigits 4617878467915022336 ∧
      ∃ text u s q, ∃ hq : q < infiniteRank, Export.render .json t = .ok (.text text) ∧
        json {} (Rendering.text text).bytes = .ok u ∧ u[1]? = some s ∧
        s.get "n" = .number (.finite true q hq) ∧
        (KeepsDigits 4617878467915022336 → q = 4617878467915022336) := by
  intro x r t
  have hc : r.get "n" = .number x := by decide +kernel
  have hkeep : KeepsDigits 4617878467915022336 := by decide +kernel
  have ho : ({} : Options).maxRows = none := rfl
  have hr : t[1]? = some r := rfl
  have hk : "n" ∈ t.headers := by decide +kernel
  exact ⟨hc, hkeep, exists_json_reload_number ho hr hk hc⟩

/-- A whole number of sixteen digits is another number after it has been exported as JSON and
loaded. -/
theorem json_reload_of_sixteen_digits :
    let t : Table := [Record.ofList [("n", .number (Number.ofNat 9007199254740991))]]
    let u : Table := [Record.ofList [("n", .number (Number.ofNat 9007199254740990))]]
    t ≠ u ∧ ∃ text, Export.render .json t = .ok (.text text) ∧
      json {} (Rendering.text text).bytes = .ok u := by
  intro t u
  have hrender : Export.render .json t =
      .ok (.text "[\n  \x7b\n    \"n\": 9007199254740991.0\n  \x7d\n]") := by
    decide +kernel
  have hload : json {} (Rendering.text
      "[\n  \x7b\n    \"n\": 9007199254740991.0\n  \x7d\n]").bytes = .ok u := by
    decide +kernel
  have hne : t ≠ u := by decide +kernel
  exact ⟨hne, _, hrender, hload⟩

end Load

end Tabular
