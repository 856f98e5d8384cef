import Mathlib.Data.Finset.Dedup
import Mathlib.Data.Finset.Card
import Tabular.Proofs.Table.FirstSeen
import Tabular.Proofs.Table.Keys

set_option autoImplicit false

/-! # Records as they are built

A record remembers of the puts that built it the order in which the names first came and the last
cell of each name (`Record.BuiltFrom`). A put keeps this up (`BuiltFrom.put`), and so do puts in a
row, from the empty record or from one that was collected. So it makes no difference which of the
pairs are collected and which are put one by one (`Record.built_from_puts`).
-/

namespace Tabular.Record

/-- The names stand in the order of their first pairs, each with the cell of its last pair. -/
structure BuiltFrom (pairs : List (String × Cell)) (r : Record) : Prop where
  keys_eq : r.keys = (pairs.map Prod.fst).eraseDups
  get_eq : ∀ key, r.get key = (pairs.reverse.lookup key).getD .empty

namespace BuiltFrom

variable {pairs : List (String × Cell)} {r : Record}

theorem empty : BuiltFrom [] Record.empty := by
  constructor
  · rfl
  · intro key
    rfl

/-- One more put is one more pair at the end. -/
theorem put (h : BuiltFrom pairs r) (key : String) (cell : Cell) :
    BuiltFrom (pairs ++ [(key, cell)]) (r.put key cell) := by
  constructor
  · have hmem : key ∈ r.keys ↔ key ∈ pairs.map Prod.fst := by rw [h.keys_eq, List.mem_eraseDups]
    rw [keys_put, List.map_append]
    show _ = (pairs.map Prod.fst ++ [key]).eraseDups
    rw [eraseDups_concat, ← h.keys_eq]
    simp only [hmem]
  · intro other
    rw [List.reverse_concat]
    by_cases hother : other = key
    · subst hother
      rw [get_put_self, List.lookup_cons_self, Option.getD_some]
    · have hne : (other == key) = false := by simpa using hother
      rw [get_put_of_ne r hother, h.get_eq, List.lookup_cons, hne]

/-- Puts in a row are as many pairs at the end. -/
theorem foldl_put (h : BuiltFrom pairs r) (more : List (String × Cell)) :
    BuiltFrom (pairs ++ more) (more.foldl (fun r p => r.put p.1 p.2) r) := by
  -- The pairs that came before grow with each put.
  induction more generalizing pairs r with
  | nil =>
      rw [List.append_nil]
      exact h
  | cons p more ih =>
      have hstep := ih (h.put p.1 p.2)
      rw [List.append_assoc] at hstep
      exact hstep

/-- Each name that came is there once, and no other one. -/
theorem has_iff (h : BuiltFrom pairs r) (key : String) :
    r.has key = true ↔ key ∈ pairs.map Prod.fst := by
  rw [Record.has_iff, h.keys_eq, List.mem_eraseDups]

theorem size_eq (h : BuiltFrom pairs r) : r.size = (pairs.map Prod.fst).toFinset.card := by
  have hnames : (pairs.map Prod.fst).toFinset = r.keys.toFinset := by
    ext key
    rw [List.mem_toFinset, List.mem_toFinset, h.keys_eq, List.mem_eraseDups]
  calc r.size = r.keys.length := (List.length_map _).symm
    _ = r.keys.toFinset.card := (List.toFinset_card_of_nodup r.nodup_keys).symm
    _ = (pairs.map Prod.fst).toFinset.card := by rw [hnames]

theorem get_eq_empty (h : BuiltFrom pairs r) {key : String} (hkey : key ∉ pairs.map Prod.fst) :
    r.get key = .empty := by
  apply get_of_not_mem
  rw [h.keys_eq, List.mem_eraseDups]
  exact hkey

/-- The last pair of a name is one behind which the name does not come again. -/
theorem get_of_last {before after : List (String × Cell)} {key : String} {cell : Cell}
    (h : BuiltFrom (before ++ (key, cell) :: after) r) (hlast : key ∉ after.map Prod.fst) :
    r.get key = cell := by
  -- The pairs are looked through from the last one on, and none behind this one has the name.
  have hnone : after.reverse.lookup key = none := by
    apply lookup_eq_none_of_not_mem
    rw [List.map_reverse, List.mem_reverse]
    exact hlast
  rw [h.get_eq, List.reverse_append, List.reverse_cons, List.append_assoc, List.lookup_append,
    hnone]
  show (List.lookup key ((key, cell) :: before.reverse)).getD .empty = cell
  rw [List.lookup_cons_self, Option.getD_some]

end BuiltFrom

theorem builtFrom_ofList (pairs : List (String × Cell)) : BuiltFrom pairs (ofList pairs) := by
  rw [ofList_eq_foldl]
  exact BuiltFrom.empty.foldl_put pairs

theorem foldl_put_ofList (collected inserted : List (String × Cell)) :
    inserted.foldl (fun r p => r.put p.1 p.2) (ofList collected) =
      ofList (collected ++ inserted) := by
  rw [ofList_eq_foldl, ofList_eq_foldl, List.foldl_append]

/-- A record that is collected from some pairs, and into which others are put one by one, is the
record that all pairs are collected to. Its names are distinct, in the order in which they first
came; under each is the last cell that came with it, and nothing under any other name. -/
theorem built_from_puts (collected inserted : List (String × Cell)) :
    let pairs := collected ++ inserted
    let r := inserted.foldl (fun r p => r.put p.1 p.2) (ofList collected)
    r = ofList pairs ∧ ofList pairs = pairs.foldl (fun r p => r.put p.1 p.2) empty ∧ r.keys.Nodup ∧
      (r.keys.Pairwise fun a b =>
        (pairs.map Prod.fst).idxOf a < (pairs.map Prod.fst).idxOf b) ∧
      (∀ key, r.has key = true ↔ key ∈ pairs.map Prod.fst) ∧
      (∀ key, key ∉ pairs.map Prod.fst → r.get key = .empty) ∧
      (∀ before key cell after, pairs = before ++ (key, cell) :: after →
        key ∉ after.map Prod.fst → r.get key = cell) ∧
      r.size = (pairs.map Prod.fst).toFinset.card := by
  intro pairs r
  have hr : r = ofList pairs := foldl_put_ofList collected inserted
  have hbuilt : BuiltFrom pairs r := hr ▸ builtFrom_ofList pairs
  have horder : r.keys.Pairwise fun a b =>
      (pairs.map Prod.fst).idxOf a < (pairs.map Prod.fst).idxOf b := by
    rw [hbuilt.keys_eq]
    exact pairwise_idxOf_eraseDups (pairs.map Prod.fst)
  refine ⟨hr, ofList_eq_foldl pairs, r.nodup_keys, horder, hbuilt.has_iff,
    fun key => hbuilt.get_eq_empty, ?_, hbuilt.size_eq⟩
  intro before key cell after hpairs hlast
  rw [hpairs] at hbuilt
  exact hbuilt.get_of_last hlast

/-- A name that comes again keeps its place and takes the later cell. -/
theorem built_from_repeated_name :
    let one : Cell := .number (.ofNat 1)
    let collected : List (String × Cell) := [("a", one), ("b", .text "x")]
    let inserted : List (String × Cell) := [("a", .text "y"), ("c", .empty)]
    let r := inserted.foldl (fun r p => r.put p.1 p.2) (ofList collected)
    "a" ∉ [("c", Cell.empty)].map Prod.fst ∧ "d" ∉ (collected ++ inserted).map Prod.fst ∧
      r = ofList (collected ++ inserted) ∧ r.keys = ["a", "b", "c"] ∧ r.get "a" = .text "y" ∧
      r.get "d" = .empty ∧ r.size = 3 := by
  intro one collected inserted r
  have hlast : "a" ∉ [("c", Cell.empty)].map Prod.fst := by decide
  have habsent : "d" ∉ (collected ++ inserted).map Prod.fst := by decide
  obtain ⟨hr, -, -, -, -, hnone, hget, hsize⟩ := built_from_puts collected inserted
  refine ⟨hlast, habsent, hr, by decide, ?_, hnone "d" habsent, hsize.trans (by decide)⟩
  exact hget collected "a" (.text "y") [("c", .empty)] rfl hlast

end Tabular.Record
