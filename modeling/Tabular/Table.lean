import Tabular.Cell

set_option autoImplicit false

/-! # Records and tables

A record is a row of a table: cells under distinct keys, in the order in which the keys came.
Putting a cell under a key that is there replaces the cell and keeps its place; a new key goes
to the end. Reading a key that is not there gives the empty cell. A table is a list of records,
which need not have the same keys; its headers are the keys of the first one.

`putPair` is the same operation on any list of pairs; JSON objects use it as well.
-/

namespace Tabular

/-! ## Keyed lists -/

/-- Puts a value under a key: in place when the key is there, at the end otherwise. -/
def putPair {α : Type} (key : String) (value : α) : List (String × α) → List (String × α)
  | [] => [(key, value)]
  | (k, v) :: rest => if k = key then (k, value) :: rest else (k, v) :: putPair key value rest

/-- The keys after a put. -/
theorem map_fst_putPair {α : Type} (key : String) (value : α) (pairs : List (String × α)) :
    (putPair key value pairs).map Prod.fst =
      if key ∈ pairs.map Prod.fst then pairs.map Prod.fst else pairs.map Prod.fst ++ [key] := by
  induction pairs with
  | nil => simp [putPair]
  | cons p rest ih =>
    obtain ⟨k, v⟩ := p
    by_cases h : k = key
    · simp [putPair, h]
    · simp only [putPair, h, if_false, List.map_cons, ih, List.mem_cons, Ne.symm h, false_or]
      split <;> simp

/-- A put keeps keys distinct. -/
theorem nodup_putPair {α : Type} (key : String) (value : α) {pairs : List (String × α)}
    (h : (pairs.map Prod.fst).Nodup) : ((putPair key value pairs).map Prod.fst).Nodup := by
  rw [map_fst_putPair]
  split
  · exact h
  · rename_i hk
    rw [List.nodup_append]
    refine ⟨h, by simp, ?_⟩
    intro a ha b hb
    simp only [List.mem_singleton] at hb
    subst hb
    intro hab
    exact hk (hab ▸ ha)

theorem lookup_putPair_self {α : Type} (key : String) (value : α) (pairs : List (String × α)) :
    (putPair key value pairs).lookup key = some value := by
  induction pairs with
  | nil => simp [putPair]
  | cons p rest ih =>
    obtain ⟨k, v⟩ := p
    by_cases h : k = key
    · simp [putPair, h]
    · have hk : (key == k) = false := by simpa using Ne.symm h
      simp [putPair, h, List.lookup_cons, hk, ih]

theorem lookup_putPair_of_ne {α : Type} {key other : String} (h : other ≠ key) (value : α)
    (pairs : List (String × α)) : (putPair key value pairs).lookup other = pairs.lookup other := by
  have hf : (other == key) = false := by simpa using h
  induction pairs with
  | nil => simp [putPair, List.lookup_cons, hf]
  | cons p rest ih =>
    obtain ⟨k, v⟩ := p
    by_cases hk : k = key
    · subst hk; simp [putPair, List.lookup_cons, hf]
    · simp [putPair, hk, List.lookup_cons, ih]

/-- The keyed list of a list of pairs, put one by one. -/
def putPairs {α : Type} (pairs : List (String × α)) : List (String × α) :=
  pairs.foldl (fun acc p => putPair p.1 p.2 acc) []

theorem nodup_foldl_putPair {α : Type} (pairs : List (String × α)) {acc : List (String × α)}
    (h : (acc.map Prod.fst).Nodup) :
    ((pairs.foldl (fun acc p => putPair p.1 p.2 acc) acc).map Prod.fst).Nodup := by
  induction pairs generalizing acc with
  | nil => exact h
  | cons p pairs ih => exact ih (nodup_putPair p.1 p.2 h)

theorem nodup_putPairs {α : Type} (pairs : List (String × α)) :
    ((putPairs pairs).map Prod.fst).Nodup :=
  nodup_foldl_putPair pairs (by simp)

/-! ## Records -/

/-- A row of a table. -/
structure Record where
  cells : List (String × Cell)
  nodup : (cells.map Prod.fst).Nodup
deriving DecidableEq

namespace Record

@[ext] theorem ext {r s : Record} (h : r.cells = s.cells) : r = s := by
  cases r; cases s; simp_all

def empty : Record := ⟨[], by simp⟩

instance : Inhabited Record := ⟨empty⟩

def put (r : Record) (key : String) (cell : Cell) : Record :=
  ⟨putPair key cell r.cells, nodup_putPair key cell r.nodup⟩

def ofList (pairs : List (String × Cell)) : Record := ⟨putPairs pairs, nodup_putPairs pairs⟩

def keys (r : Record) : List String := r.cells.map Prod.fst

/-- The cell under a key, empty when there is none. -/
def get (r : Record) (key : String) : Cell := (r.cells.lookup key).getD .empty

/-- The text of the cell under a key. -/
def text (r : Record) (key : String) : String := (r.get key).toText

def has (r : Record) (key : String) : Bool := r.keys.contains key

def size (r : Record) : Nat := r.cells.length

@[simp] theorem keys_empty : empty.keys = [] := rfl

theorem keys_put (r : Record) (key : String) (cell : Cell) :
    (r.put key cell).keys = if key ∈ r.keys then r.keys else r.keys ++ [key] :=
  map_fst_putPair key cell r.cells

@[simp] theorem get_put_self (r : Record) (key : String) (cell : Cell) :
    (r.put key cell).get key = cell := by
  simp [get, put, lookup_putPair_self]

theorem get_put_of_ne (r : Record) {key other : String} (h : other ≠ key) (cell : Cell) :
    (r.put key cell).get other = r.get other := by
  simp [get, put, lookup_putPair_of_ne h]

theorem has_iff (r : Record) (key : String) : r.has key = true ↔ key ∈ r.keys := by
  simp [has]

theorem cells_foldl_put_eq (pairs : List (String × Cell)) (r : Record) :
    (pairs.foldl (fun r p => r.put p.1 p.2) r).cells =
      pairs.foldl (fun cells p => putPair p.1 p.2 cells) r.cells := by
  induction pairs generalizing r with
  | nil => rfl
  | cons p pairs ih => exact ih (r.put p.1 p.2)

/-- A list is collected to the record of its puts. -/
theorem ofList_eq_foldl (pairs : List (String × Cell)) :
    ofList pairs = pairs.foldl (fun r p => r.put p.1 p.2) empty :=
  ext (cells_foldl_put_eq pairs empty).symm

theorem nodup_keys (r : Record) : r.keys.Nodup := r.nodup

end Record

/-! ## Tables -/

/-- A list of records. -/
abbrev Table := List Record

namespace Table

/-- The keys of the first record. -/
def headers (t : Table) : List String :=
  match t with
  | [] => []
  | first :: _ => first.keys

def columnText (t : Table) (key : String) : List String := t.map fun r => r.text key

@[simp] theorem headers_nil : headers [] = [] := rfl

@[simp] theorem headers_cons (r : Record) (t : List Record) : headers (r :: t) = r.keys := rfl

end Table

end Tabular
