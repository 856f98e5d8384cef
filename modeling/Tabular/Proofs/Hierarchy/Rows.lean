import Mathlib.Data.List.Forall2
import Tabular.Hierarchy
import Tabular.Load
import Tabular.Proofs.Table.FirstSeen
import Tabular.Proofs.Table.Keys

set_option autoImplicit false

/-! # Rows of a numbered table

Numbering a table is numbering its rows one by one: a row gets its composite key and the place of
this key among those of the table (`assign_eq_ok`). What carries this from row to row is that the
numbers kept for the keys so far are the places of their first appearances (`Ids.Placed`), which a
further row preserves, whether its key is new or not (`Ids.Placed.entry`). The other cells of a row
stay (`lookup_mark_of_ne`).

The two columns go to the end of a row unless it has a column of one of their names; then the cell
under this name is replaced, also where it came from a file (`Load.own_identifier_replaced`), and
exactly then the row is not just longer than before (`assign_keeps_rows`).
-/

namespace Tabular.Hierarchy

/-! ## A row with its key and number -/

section Mark

variable (r : Record) (key : String) (id : Nat)

theorem lookup_mark_key : (mark r key id).cells.lookup keyColumn = some (.text key) := by
  have hne : keyColumn ≠ idColumn := by decide
  exact (lookup_putPair_of_ne hne _ _).trans (lookup_putPair_self _ _ _)

theorem lookup_mark_id : (mark r key id).cells.lookup idColumn = some (.number (.ofNat id)) :=
  lookup_putPair_self _ _ _

theorem lookup_mark_of_ne {name : String} (hk : name ≠ keyColumn) (hi : name ≠ idColumn) :
    (mark r key id).cells.lookup name = r.cells.lookup name :=
  (lookup_putPair_of_ne hi _ _).trans (lookup_putPair_of_ne hk _ _)

@[simp] theorem get_mark_key : (mark r key id).get keyColumn = .text key := by
  rw [Record.get, lookup_mark_key]
  rfl

@[simp] theorem get_mark_id : (mark r key id).get idColumn = .number (.ofNat id) := by
  rw [Record.get, lookup_mark_id]
  rfl

theorem keys_mark : (mark r key id).keys = extended r.keys [keyColumn, idColumn] := by
  rw [mark, Record.keys_put_eq_extended, Record.keys_put_eq_extended]
  rfl

/-- A row that has this key and number is not changed by getting them again. -/
theorem mark_mark : mark (mark r key id) key id = mark r key id := by
  have hkey : (mark r key id).put keyColumn (.text key) = mark r key id :=
    Record.put_eq_self (lookup_mark_key r key id)
  show ((mark r key id).put keyColumn (.text key)).put idColumn (.number (.ofNat id)) = _
  rw [hkey]
  exact Record.put_eq_self (lookup_mark_id r key id)

/-- Composite keys of other columns are those of the row before it was numbered. -/
theorem compositeKey_mark {columns : List String} (hk : keyColumn ∉ columns)
    (hi : idColumn ∉ columns) : compositeKey columns (mark r key id) = compositeKey columns r := by
  have htexts : columns.map (mark r key id).text = columns.map r.text := by
    refine List.map_congr_left fun name hname => ?_
    have hnk : name ≠ keyColumn := fun h => hk (h ▸ hname)
    have hni : name ≠ idColumn := fun h => hi (h ▸ hname)
    rw [Record.text, Record.get, lookup_mark_of_ne r key id hnk hni]
    rfl
  rw [compositeKey, htexts]
  rfl

end Mark

/-! ## The rows of a table -/

/-- The composite keys of a table, each one once, in the order in which they first appear. -/
def distinctKeys (columns : List String) (t : Table) : List String :=
  (t.map (compositeKey columns)).eraseDups

/-- The number of a row: the place of its composite key among those of the table, from one. -/
def place (columns : List String) (t : Table) (r : Record) : Nat :=
  (distinctKeys columns t).idxOf (compositeKey columns r) + 1

/-- After rows with these keys, every key has its place among the first appearances as its number,
counted from one. -/
structure Ids.Placed (keys : List String) (ids : Ids) : Prop where
  keys_eq : ids.map Prod.fst = keys.eraseDups
  lookup_eq : ∀ key ∈ keys, ids.lookup key = some (keys.eraseDups.idxOf key + 1)

namespace Ids.Placed

variable {before : List String} {ids : Ids}

theorem nil : Placed [] [] := ⟨rfl, nofun⟩

theorem length_eq (h : Placed before ids) : ids.length = before.eraseDups.length := by
  rw [← h.keys_eq, List.length_map]

theorem lookup_eq_none (h : Placed before ids) {key : String} (hkey : key ∉ before) :
    ids.lookup key = none := by
  rw [List.lookup_eq_none_iff]
  intro p hp
  rw [bne_iff_ne]
  rintro rfl
  have hmem : p.1 ∈ ids.map Prod.fst := List.mem_map_of_mem hp
  rw [h.keys_eq, List.mem_eraseDups] at hmem
  exact hkey hmem

/-- A key that comes again changes nothing. -/
theorem again (h : Placed before ids) {key : String} (hkey : key ∈ before) :
    Placed (before ++ [key]) ids := by
  have hdups : (before ++ [key]).eraseDups = before.eraseDups := by
    rw [eraseDups_concat, if_pos hkey]
  refine ⟨hdups ▸ h.keys_eq, fun k hk => ?_⟩
  have hk : k ∈ before := by
    rcases List.mem_append.mp hk with hk | hk
    · exact hk
    · exact List.mem_singleton.mp hk ▸ hkey
  rw [hdups, h.lookup_eq k hk]

theorem idxOf_new (h : Placed before ids) {key : String} (hkey : key ∉ before) :
    (before ++ [key]).eraseDups.idxOf key = ids.length := by
  rw [eraseDups_concat, if_neg hkey, List.idxOf_append_of_notMem (mt List.mem_eraseDups.mp hkey),
    List.idxOf_cons_self, h.length_eq, Nat.add_zero]

/-- A new key gets the next number, and the others keep theirs. -/
theorem new (h : Placed before ids) {key : String} (hkey : key ∉ before) :
    Placed (before ++ [key]) (ids ++ [(key, ids.length + 1)]) := by
  refine ⟨by simp [eraseDups_concat, hkey, h.keys_eq], fun k hk => ?_⟩
  rw [List.lookup_append]
  rcases List.mem_append.mp hk with hk | hk
  · rw [h.lookup_eq k hk, idxOf_eraseDups_append hk]
    rfl
  · obtain rfl := List.mem_singleton.mp hk
    rw [h.lookup_eq_none hkey, h.idxOf_new hkey]
    simp

/-- A known key and a new one are treated alike: both have their place afterwards. -/
theorem entry (h : Placed before ids) (key : String) :
    ∃ ids', ids.entry key (ids.length + 1) =
        ((before ++ [key]).eraseDups.idxOf key + 1, ids') ∧ Placed (before ++ [key]) ids' := by
  by_cases hkey : key ∈ before
  · refine ⟨ids, ?_, h.again hkey⟩
    rw [Ids.entry, h.lookup_eq key hkey, idxOf_eraseDups_append hkey]
  · refine ⟨_, ?_, h.new hkey⟩
    rw [Ids.entry, h.lookup_eq_none hkey, h.idxOf_new hkey]

end Ids.Placed

/-- The place of a key is counted among all keys, those in front of the rows included. -/
theorem number_eq_map (columns : List String) {before : List String} {ids : Ids}
    (h : Ids.Placed before ids) (t : Table) :
    number columns ids t = t.map fun r => mark r (compositeKey columns r)
      ((before ++ t.map (compositeKey columns)).eraseDups.idxOf (compositeKey columns r) + 1) := by
  induction t generalizing before ids with
  | nil => rfl
  | cons r t ih =>
      obtain ⟨ids', hentry, hplaced⟩ := h.entry (compositeKey columns r)
      have hsplit : before ++ (r :: t).map (compositeKey columns) =
          before ++ [compositeKey columns r] ++ t.map (compositeKey columns) := by simp
      -- The keys of later rows come behind, and leave the place of the key of this row.
      have hplace : (before ++ (r :: t).map (compositeKey columns)).eraseDups.idxOf
            (compositeKey columns r) =
          (before ++ [compositeKey columns r]).eraseDups.idxOf (compositeKey columns r) := by
        rw [hsplit, idxOf_eraseDups_append (by simp)]
      rw [number, hentry, List.map_cons, hplace, hsplit]
      exact congrArg _ (ih hplaced)

/-- The rows of a table with their keys and places. -/
def marked (columns : List String) (t : Table) : Table :=
  t.map fun r => mark r (compositeKey columns r) (place columns t r)

theorem assign_eq_ok {columns : List String} (hc : columns ≠ []) (t : Table) :
    assign columns t = .ok (marked columns t) := by
  rw [assign_of_ne_nil hc, number_eq_map columns Ids.Placed.nil, List.nil_append]
  rfl

/-- A relation between a row and what numbering makes of it holds along the table. -/
theorem forall₂_marked {related : Record → Record → Prop} {columns : List String} {t : Table}
    (h : ∀ r id, related r (mark r (compositeKey columns r) id)) :
    List.Forall₂ related t (marked columns t) := by
  rw [marked, List.forall₂_map_right_iff]
  exact List.forall₂_same.mpr fun r _ => h r (place columns t r)

/-! ## Rows that only become longer -/

/-- The second row has all cells of the first one in front, and two columns more. -/
structure Appended (r r' : Record) : Prop where
  cells : r.cells <+: r'.cells
  keys : r'.keys = r.keys ++ [keyColumn, idColumn]

theorem cells_mark {r : Record} (hk : keyColumn ∉ r.keys) (hi : idColumn ∉ r.keys) (key : String)
    (id : Nat) :
    (mark r key id).cells =
      r.cells ++ [(keyColumn, .text key), (idColumn, .number (.ofNat id))] := by
  have hput : (r.put keyColumn (.text key)).keys = r.keys ++ [keyColumn] := by
    rw [Record.keys_put, if_neg hk]
  have hi' : idColumn ∉ (r.put keyColumn (.text key)).keys := by
    have hne : idColumn ≠ keyColumn := by decide
    simp [hput, hi, hne]
  rw [mark, Record.cells_put_of_not_mem hi', Record.cells_put_of_not_mem hk, List.append_assoc]
  rfl

theorem appended_mark_iff (r : Record) (key : String) (id : Nat) :
    Appended r (mark r key id) ↔ keyColumn ∉ r.keys ∧ idColumn ∉ r.keys := by
  constructor
  · -- The keys of a row are distinct, so that the two behind it are none of its own.
    rintro ⟨-, hkeys⟩
    have hnodup : (r.keys ++ [keyColumn, idColumn]).Nodup := hkeys ▸ Record.nodup_keys _
    have hdisjoint := (List.nodup_append.mp hnodup).2.2
    exact ⟨fun h => hdisjoint _ h keyColumn (by simp) rfl,
      fun h => hdisjoint _ h idColumn (by simp) rfl⟩
  · rintro ⟨hk, hi⟩
    have hcells := cells_mark hk hi key id
    refine ⟨hcells ▸ List.prefix_append _ _, ?_⟩
    rw [Record.keys, hcells, List.map_append]
    rfl

/-- What numbering keeps of a row: the order of its keys, the cells under other names, and all its
cells if it has no column of the two names. -/
structure Keeps (r r' : Record) : Prop where
  order : r'.keys = extended r.keys [keyColumn, idColumn]
  others : ∀ name, name ≠ keyColumn → name ≠ idColumn →
    r'.cells.lookup name = r.cells.lookup name
  appended_iff : Appended r r' ↔ keyColumn ∉ r.keys ∧ idColumn ∉ r.keys

theorem keeps_mark (r : Record) (key : String) (id : Nat) : Keeps r (mark r key id) where
  order := keys_mark r key id
  others _ hk hi := lookup_mark_of_ne r key id hk hi
  appended_iff := appended_mark_iff r key id

/-- A row is only appended to exactly if it has no column of the two names; otherwise the cell
under such a name is replaced, and no other one. -/
theorem assign_keeps_rows {columns : List String} (hc : columns ≠ []) (t : Table) :
    ∃ t', assign columns t = .ok t' ∧ List.Forall₂ Keeps t t' :=
  ⟨_, assign_eq_ok hc t, forall₂_marked fun r => keeps_mark r _⟩

/-- A row with neither column, one with a column `ID` in front, and one with both. -/
theorem assign_keeps_rows_with_identifiers :
    let t : Table := [
      Record.ofList [("team", .text "A")],
      Record.ofList [("ID", .text "x-7"), ("team", .text "B")],
      Record.ofList [("UniqueKey", .empty), ("team", .text "A"), ("ID", .number (.ofNat 9))]]
    ["team"] ≠ [] ∧ ∃ t', assign ["team"] t = .ok t' ∧ List.Forall₂ Keeps t t' := by
  intro t
  have hc : ["team"] ≠ [] := by decide
  exact ⟨hc, assign_keeps_rows hc t⟩

end Tabular.Hierarchy

namespace Tabular

/-- A column `ID` of a file is overwritten, and the row has one new key only. -/
theorem Load.own_identifier_replaced :
    let r : Record := Record.ofList [("ID", .text "x-7"), ("team", .text "A")]
    let r' : Record := Record.ofList
      [("ID", .number (.ofNat 1)), ("team", .text "A"), ("UniqueKey", .text "A")]
    Load.delimited {} ',' "ID,team\nx-7,A\n".toUTF8 = .ok [r] ∧
      Hierarchy.assign ["team"] [r] = .ok [r'] ∧ r.get "ID" ≠ r'.get "ID" ∧
      r'.size = r.size + 1 := by
  decide +kernel

end Tabular
