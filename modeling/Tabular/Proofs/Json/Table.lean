import Mathlib.Data.List.Forall2
import Tabular.Json.Table
import Tabular.Proofs.Json.Containers
import Tabular.Proofs.Table.Keys

set_option autoImplicit false

/-! # Tables that were stored

A stored table is restored record by record and cell by cell (`Table.exists_restored`): a cell
keeps its kind and its text, a number that is not finite is missing afterwards, and a finite number
is what the reader makes of its text. There always is such a number, and it has the same sign
(`exists_parse_numberText`). The table is written and read in either way of spacing
(`reads_records`).
-/

namespace Tabular

open Json

/-! ## Cells -/

/-- What a cell is after it has been stored. -/
inductive Cell.RestoredAs : Cell → Cell → Prop
  | empty : RestoredAs .empty .empty
  | text (s : String) : RestoredAs (.text s) (.text s)
  | missing {x : Number} (hx : x.isFinite = false) : RestoredAs (.number x) .empty
  | number {x : Number} {n : Numeral} (hx : x.isFinite = true)
      (h : parse ((numberText x).map some) = .ok (.number n)) :
      RestoredAs (.number x) (.number n.toNumber)

/-- The text of a finite number is the text of a finite number of the same sign, and of the same one
if its digits are kept. -/
theorem Json.exists_parse_numberText (negative : Bool) {rank : Nat} (hr : rank < infiniteRank) :
    ∃ q, ∃ hq : q < infiniteRank, (KeepsDigits rank → q = rank) ∧
      parse ((numberText (.finite negative rank hr)).map some) =
        .ok (.number (.decimal (.finite negative q hq))) := by
  obtain ⟨q, hq, hkeep, hread⟩ := exists_reads_number negative hr
  exact ⟨q, hq, hkeep, (hread maxDepth).whole_eq⟩

/-- The text of a cell is the text of a value that stores what the cell is restored as. -/
theorem Cell.exists_reads_toJson (c : Cell) :
    ∃ j d, ofStored? j = some d ∧ c.RestoredAs d ∧
      ∀ (w : Spacing) (level depth : Nat), Reads (readValue depth) (w.text level c.toJson) j := by
  cases c with
  | empty => exact ⟨.null, .empty, rfl, .empty, fun w level depth => reads_of_fits (.null depth)⟩
  | text s =>
      exact ⟨.string s, .text s, rfl, .text s, fun w level depth =>
        reads_of_fits (.string depth s)⟩
  | number x =>
      cases x with
      | nan | infinite _ =>
          -- What is not finite is written as the value that is missing.
          refine ⟨.null, .empty, rfl, .missing rfl, fun w level depth => ?_⟩
          cases w <;> exact reads_null depth
      | finite negative rank hr =>
          obtain ⟨q, hq, -, hread⟩ := exists_reads_number negative hr
          refine ⟨.number (.decimal (.finite negative q hq)), _, rfl,
            .number rfl (hread maxDepth).whole_eq, fun w level depth => ?_⟩
          cases w <;> exact hread depth

theorem Cell.reads_readStored {depth : Nat} {text : List Char} {j : Json} {c : Cell}
    (h : Reads (readValue depth) text j) (hj : ofStored? j = some c) :
    Reads (readStored depth) text c where
  starts := h.starts
  reads := by
    intro gap hg rest hr
    simp only [readStored, h.reads gap hg rest hr, hj, bind, Except.bind]

theorem Cell.exists_reads_readStored (c : Cell) :
    ∃ d, c.RestoredAs d ∧ ∀ (w : Spacing) (level depth : Nat),
      Reads (readStored depth) (w.text level c.toJson) d := by
  obtain ⟨j, d, hj, hd, hread⟩ := c.exists_reads_toJson
  exact ⟨d, hd, fun w level depth => reads_readStored (hread w level depth) hj⟩

/-! ## Records -/

namespace Record

/-- Reads a member of a record from its colon on. -/
def putMember (cell : Nat → Input → Except Fault (Cell × Input)) (depth : Nat) (key : String)
    (r : Record) (s : Input) : Except Fault (Record × Input) := do
  let rest ← readColon s
  let (c, rest) ← cell depth rest
  .ok (r.put key c, rest)

variable {cell : Nat → Input → Except Fault (Cell × Input)} {w : Spacing} {level depth : Nat}

theorem gathers_put {members : List (String × Json)} {cells : List (String × Cell)}
    (h : List.Forall₂ (fun m p => m.1 = p.1 ∧ Reads (cell depth) (w.text level m.2) p.2) members
      cells) (r : Record) :
    Gathers (putMember cell depth) w.colonGap (members.map fun m => (m.1, w.text level m.2)) r
      (cells.foldl (fun r p => r.put p.1 p.2) r) := by
  induction h generalizing r with
  | nil => exact .nil r
  | @cons m p members cells hp _ ih =>
      obtain ⟨hkey, hread⟩ := hp
      refine .cons (fun rest hr => ?_) (ih (r.put p.1 p.2))
      rw [putMember, readColon_behindKey]
      simp only [hread.reads _ w.blank_colonGap rest hr, hkey, bind, Except.bind]

/-- A record is read when its cells are. -/
theorem reads_read {members : List (String × Json)} {s : Record}
    (h : List.Forall₂ (fun m p => m.1 = p.1 ∧ Reads (cell depth) (w.text (level + 1) m.2) p.2)
      members s.cells) :
    Reads (Record.read cell (depth + 1)) (w.text level (.object members)) s := by
  have hs : s.cells.foldl (fun r p => r.put p.1 p.2) empty = s := by
    rw [← ofList_eq_foldl]
    exact ext (cells_ofList s.nodup)
  have hread := reads_object (gathers_put h empty)
  rw [hs] at hread
  exact hread

/-- The same keys in the same order, and under each what the cell is restored as. -/
def RestoredAs (r s : Record) : Prop :=
  List.Forall₂ (fun p q => p.1 = q.1 ∧ p.2.RestoredAs q.2) r.cells s.cells

theorem exists_reads_toJson (r : Record) :
    ∃ s, r.RestoredAs s ∧ ∀ (w : Spacing) (level depth : Nat),
      Reads (Record.read Cell.readStored (depth + 1)) (w.text level r.toJson) s := by
  choose restored hrestored hreads using Cell.exists_reads_readStored
  -- The keys are those of the record, so they are distinct and no cell replaces another.
  have hkeys : (r.cells.map fun p => (p.1, restored p.2)).map Prod.fst = r.keys := by
    rw [List.map_map]
    rfl
  refine ⟨⟨r.cells.map fun p => (p.1, restored p.2), hkeys ▸ r.nodup_keys⟩, ?_, ?_⟩
  · show List.Forall₂ _ r.cells (r.cells.map fun p => (p.1, restored p.2))
    rw [List.forall₂_map_right_iff, List.forall₂_same]
    intro p _
    exact ⟨rfl, hrestored p.2⟩
  · intro w level depth
    refine reads_read ?_
    rw [List.forall₂_map_left_iff, List.forall₂_map_right_iff, List.forall₂_same]
    intro p _
    exact ⟨rfl, hreads p.2 w (level + 1) depth⟩

end Record

/-! ## Tables -/

namespace Table

/-- As many records, each restored. -/
def RestoredAs (t u : Table) : Prop := List.Forall₂ Record.RestoredAs t u

/-- A stored table is restored. -/
theorem exists_restored (t : Table) :
    ∃ u : Table, ofStored (Text.symbolsOf t.toJson.compactText) = .ok u ∧ t.RestoredAs u := by
  choose restored hrestored hreads using Record.exists_reads_toJson
  refine ⟨t.map restored, ?_, ?_⟩
  · have hread : Reads (readArray maxDepth (Record.read Cell.readStored))
        (Spacing.compact.text 0 t.toJson) (t.map restored) := by
      refine reads_array ?_
      rw [List.forall₂_map_left_iff, List.forall₂_map_right_iff, List.forall₂_same]
      intro r _
      exact hreads r .compact 1 125
    rw [compactText, Text.symbolsOf, String.toList_ofList]
    exact hread.whole_eq
  · show List.Forall₂ _ t (t.map restored)
    rw [List.forall₂_map_right_iff, List.forall₂_same]
    intro r _
    exact hrestored r

end Table

end Tabular
