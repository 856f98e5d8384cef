import Mathlib.Data.List.Basic
import Mathlib.Data.List.Forall2
import Tabular.Table

set_option autoImplicit false

/-! # Keys of records and tables

A put keeps the keys of a record in place and adds at most one at the end, so puts in a row
extend the list of keys (`extended`), and how they do so depends on the keys alone. Cells that are
put under distinct keys are all kept (`Record.cells_ofList`), and they are what is read under the
keys (`Record.map_get_keys`). Tables whose records all have the same keys in the same order are
rectangular (`Table.Rectangular`).

Two cells are alike when they hold the same value of the same kind, where the two zeros are one
number; records and tables are alike when their cells are, under the same keys in the same order
(`Table.Alike`).
-/

namespace Tabular

/-! ## Lists of keys -/

/-- A list of keys to which more keys are added at the end, each one if it is new. -/
def extended (keys more : List String) : List String :=
  more.foldl (fun keys key => if key ∈ keys then keys else keys ++ [key]) keys

@[simp] theorem extended_nil (keys : List String) : extended keys [] = keys := rfl

theorem extended_cons (keys : List String) (key : String) (more : List String) :
    extended keys (key :: more) =
      extended (if key ∈ keys then keys else keys ++ [key]) more := rfl

theorem prefix_extended (keys more : List String) : keys <+: extended keys more := by
  induction more generalizing keys with
  | nil => exact List.prefix_refl keys
  | cons key more ih =>
      rw [extended_cons]
      split
      · exact ih keys
      · exact (List.prefix_append keys [key]).trans (ih _)

theorem mem_extended_of_mem_right {keys more : List String} {key : String} (h : key ∈ more) :
    key ∈ extended keys more := by
  induction more generalizing keys with
  | nil => cases h
  | cons k more ih =>
      rw [extended_cons]
      rcases List.mem_cons.mp h with rfl | hm
      · -- The key is there once it has been added, and stays.
        refine (prefix_extended _ more).subset ?_
        split
        · assumption
        · simp
      · exact ih hm

/-- Keys that are all new are added as they are. -/
theorem extended_eq_append {keys more : List String} (h : (keys ++ more).Nodup) :
    extended keys more = keys ++ more := by
  induction more generalizing keys with
  | nil => simp
  | cons key more ih =>
      have hk : key ∉ keys := fun hk => (List.nodup_append.mp h).2.2 key hk key (by simp) rfl
      have hn : ((keys ++ [key]) ++ more).Nodup := by simpa using h
      rw [extended_cons, if_neg hk, ih hn, List.append_assoc]
      rfl

/-! ## Keys of records -/

namespace Record

theorem keys_put_eq_extended (r : Record) (key : String) (cell : Cell) :
    (r.put key cell).keys = extended r.keys [key] :=
  keys_put r key cell

/-- The keys after puts do not depend on the cells. -/
theorem keys_foldl_put {α : Type} (key : α → String) (cell : α → Cell) (items : List α)
    (r : Record) :
    (items.foldl (fun r a => r.put (key a) (cell a)) r).keys =
      extended r.keys (items.map key) := by
  induction items generalizing r with
  | nil => rfl
  | cons a items ih => rw [List.foldl_cons, ih, keys_put, List.map_cons, extended_cons]

theorem keys_ofList (pairs : List (String × Cell)) :
    (ofList pairs).keys = extended [] (pairs.map Prod.fst) := by
  rw [ofList_eq_foldl]
  exact keys_foldl_put Prod.fst Prod.snd pairs empty

end Record

/-! ## Cells of records -/

theorem putPair_of_not_mem {α : Type} {key : String} {pairs : List (String × α)}
    (h : key ∉ pairs.map Prod.fst) (value : α) :
    putPair key value pairs = pairs ++ [(key, value)] := by
  induction pairs with
  | nil => rfl
  | cons p pairs ih =>
      obtain ⟨k, v⟩ := p
      have hk : k ≠ key := fun hk => h (by simp [hk])
      have hp : key ∉ pairs.map Prod.fst := fun hp => h (by simp [hp])
      rw [putPair, if_neg hk, ih hp]
      rfl

theorem putPair_eq_self {α : Type} {key : String} {value : α} {pairs : List (String × α)}
    (h : pairs.lookup key = some value) : putPair key value pairs = pairs := by
  induction pairs with
  | nil => cases h
  | cons p pairs ih =>
      obtain ⟨k, v⟩ := p
      rw [putPair]
      by_cases hk : k = key
      · obtain rfl : v = value := by simpa [List.lookup_cons, hk] using h
        rw [if_pos hk]
      · have hf : (key == k) = false := by simpa using Ne.symm hk
        rw [List.lookup_cons, hf] at h
        rw [if_neg hk, ih h]

/-- A put among values that are worked out from their keys. -/
theorem putPair_map {α : Type} {keys : List String} (h : keys.Nodup) (value : String → α)
    (key : String) (new : α) :
    putPair key new (keys.map fun k => (k, value k)) =
      (if key ∈ keys then keys else keys ++ [key]).map
        fun k => (k, if k = key then new else value k) := by
  induction keys with
  | nil => simp [putPair]
  | cons k keys ih =>
      have hk : k ∉ keys := (List.nodup_cons.mp h).1
      rw [List.map_cons, putPair]
      by_cases hkey : k = key
      · -- The key does not come back, so that the other values stay.
        have hrest : keys.map (fun k => (k, value k)) =
            keys.map fun k => (k, if k = key then new else value k) := by
          refine List.map_congr_left fun k' hk' => ?_
          have hne : k' ≠ key := by
            rintro rfl
            exact hk (hkey ▸ hk')
          rw [if_neg hne]
        rw [if_pos hkey, if_pos (by simp [hkey]), hrest, List.map_cons, if_pos hkey]
      · have hmem : key ∈ k :: keys ↔ key ∈ keys := by simp [Ne.symm hkey]
        rw [if_neg hkey, ih (List.nodup_cons.mp h).2]
        simp only [hmem]
        split <;> simp [hkey]

namespace Record

theorem put_eq_self {r : Record} {key : String} {cell : Cell}
    (h : r.cells.lookup key = some cell) : r.put key cell = r :=
  ext (putPair_eq_self h)

theorem cells_put_of_not_mem {r : Record} {key : String} (h : key ∉ r.keys) (cell : Cell) :
    (r.put key cell).cells = r.cells ++ [(key, cell)] :=
  putPair_of_not_mem h cell

theorem cells_foldl_put {r : Record} {pairs : List (String × Cell)}
    (h : ((r.cells ++ pairs).map Prod.fst).Nodup) :
    (pairs.foldl (fun r p => r.put p.1 p.2) r).cells = r.cells ++ pairs := by
  induction pairs generalizing r with
  | nil => simp
  | cons p pairs ih =>
      have hj : r.cells ++ p :: pairs = r.cells ++ [p] ++ pairs := by simp
      have hp : p.1 ∉ r.cells.map Prod.fst := by
        intro hp
        rw [List.map_append, List.nodup_append] at h
        exact h.2.2 p.1 hp p.1 (by simp) rfl
      have hput : (r.put p.1 p.2).cells = r.cells ++ [p] := cells_put_of_not_mem hp p.2
      rw [List.foldl_cons, ih (by rw [hput, ← hj]; exact h), hput, ← hj]

/-- Cells under distinct keys are all kept. -/
theorem cells_ofList {pairs : List (String × Cell)} (h : (pairs.map Prod.fst).Nodup) :
    (ofList pairs).cells = pairs := by
  rw [ofList_eq_foldl]
  exact cells_foldl_put h

theorem lookup_eq_of_mem {α : Type} {pairs : List (String × α)} (h : (pairs.map Prod.fst).Nodup)
    {p : String × α} (hp : p ∈ pairs) : pairs.lookup p.1 = some p.2 := by
  induction pairs with
  | nil => cases hp
  | cons q pairs ih =>
      rw [List.map_cons, List.nodup_cons] at h
      rcases List.mem_cons.mp hp with rfl | hp
      · have hself : (p.1 == p.1) = true := beq_self_eq_true p.1
        rw [List.lookup_cons, hself]
      · -- The first key is another one, since it does not come back.
        have hne : p.1 ≠ q.1 := fun he => h.1 (he ▸ List.mem_map_of_mem hp)
        have hf : (p.1 == q.1) = false := by simpa using hne
        rw [List.lookup_cons, hf]
        exact ih h.2 hp

theorem lookup_eq_none_of_not_mem {α : Type} {pairs : List (String × α)} {key : String}
    (h : key ∉ pairs.map Prod.fst) : pairs.lookup key = none := by
  rw [List.lookup_eq_none_iff]
  intro p hp
  rw [bne_iff_ne]
  intro hk
  apply h
  rw [hk]
  exact List.mem_map_of_mem hp

theorem get_of_mem {r : Record} {key : String} {cell : Cell} (h : (key, cell) ∈ r.cells) :
    r.get key = cell := by
  rw [get, lookup_eq_of_mem r.nodup h]
  rfl

theorem get_of_not_mem {r : Record} {key : String} (h : key ∉ r.keys) : r.get key = .empty := by
  rw [get, lookup_eq_none_of_not_mem h]
  rfl

/-- The cells are what is read under the keys. -/
theorem map_get_keys (r : Record) : r.keys.map r.get = r.cells.map Prod.snd := by
  rw [keys, List.map_map]
  exact List.map_congr_left fun p hp => get_of_mem hp

theorem map_text_keys (r : Record) : r.keys.map r.text = r.cells.map fun p => p.2.toText := by
  have h := congrArg (List.map Cell.toText) r.map_get_keys
  rw [List.map_map, List.map_map] at h
  exact h

end Record

/-! ## Tables -/

namespace Table

/-- All records have the same keys in the same order. -/
def Rectangular (t : Table) : Prop := ∀ r ∈ t, ∀ r' ∈ t, r.keys = r'.keys

instance (t : Table) : Decidable t.Rectangular :=
  inferInstanceAs (Decidable (∀ r ∈ t, ∀ r' ∈ t, r.keys = r'.keys))

theorem rectangular_nil : Rectangular [] := by simp [Rectangular]

theorem rectangular_of_forall {t : Table} {keys : List String} (h : ∀ r ∈ t, r.keys = keys) :
    t.Rectangular :=
  fun r hr r' hr' => (h r hr).trans (h r' hr').symm

theorem rectangular_map {α : Type} {f : α → Record} {keys : List String}
    (h : ∀ a, (f a).keys = keys) (items : List α) : Rectangular (items.map f) := by
  have hk : ∀ r ∈ items.map f, r.keys = keys := by
    intro r hr
    obtain ⟨a, -, rfl⟩ := List.mem_map.mp hr
    exact h a
  exact rectangular_of_forall hk

theorem exists_keys_eq_headers {t : Table} (h : t ≠ []) : ∃ r ∈ t, r.keys = t.headers := by
  cases t with
  | nil => exact absurd rfl h
  | cons r rest => exact ⟨r, by simp, rfl⟩

theorem keys_eq_headers {t : Table} (h : t.Rectangular) {r : Record} (hr : r ∈ t) :
    r.keys = t.headers := by
  obtain ⟨first, hf, hk⟩ := exists_keys_eq_headers (List.ne_nil_of_mem hr)
  rw [← hk]
  exact h r hr first hf

end Table

/-! ## Tables that hold the same values -/

/-- The same value of the same kind. -/
def Cell.Alike : Cell → Cell → Prop
  | .number x, .number y => x.same y = true
  | c, d => c = d

/-- Alike cells under the same keys in the same order. -/
def Record.Alike (r s : Record) : Prop :=
  List.Forall₂ (fun p q => p.1 = q.1 ∧ p.2.Alike q.2) r.cells s.cells

/-- As many records, alike one by one. -/
def Table.Alike (t u : Table) : Prop := List.Forall₂ Record.Alike t u

theorem Record.Alike.keys_eq {r s : Record} (h : r.Alike s) : r.keys = s.keys := by
  have hk : List.Forall₂ (· = ·) (r.cells.map Prod.fst) (s.cells.map Prod.fst) := by
    rw [List.forall₂_map_left_iff, List.forall₂_map_right_iff]
    exact h.imp fun _ _ hp => hp.1
  exact List.forall₂_eq_eq_eq ▸ hk

theorem Table.Alike.headers_eq {t u : Table} (h : t.Alike u) : t.headers = u.headers := by
  cases h with
  | nil => rfl
  | cons hr _ => exact hr.keys_eq

end Tabular
