import Tabular.Load
import Tabular.Proofs.Table.Firsts
import Tabular.Proofs.Text.Joined

set_option autoImplicit false

/-! # Rows that are removed as duplicates

Rows that are kept have different identities (`pairwise_firstsBy`), so their texts differ, the
first row is always one of them, and nothing more is removed a second time
(`Table.dedupe_leaves_distinct_rows`).

A row is removed when an earlier row that is kept has the same identity (`firstsBy_covers`). The
identity joins the texts of the row by the unit separator, so that it tells rows apart if the
separator occurs in the texts of one column at most; then each row that is removed repeats the
texts of a row that is kept (`Table.dedupe_removes_repeats`). Loading keeps the separator where a
file has it, and with the separator in two columns a row of other texts can be removed
(`Load.row_of_other_texts_removed`).
-/

namespace Tabular

namespace Record

theorem text_eq_of_identity_eq {r r' : Record} {headers : List String} {free : String}
    (hr : ∀ key ∈ headers, key ≠ free → '\x1f' ∉ (r.text key).toList)
    (hr' : ∀ key ∈ headers, key ≠ free → '\x1f' ∉ (r'.text key).toList)
    (h : r.identity headers = r'.identity headers) :
    ∀ key ∈ headers, r.text key = r'.text key :=
  Text.eq_of_intercalate_eq_of_free rfl hr hr' h

theorem exists_text_ne_of_identity_ne {r r' : Record} {headers : List String}
    (h : r.identity headers ≠ r'.identity headers) :
    ∃ key ∈ headers, r.text key ≠ r'.text key := by
  by_contra hall
  push Not at hall
  have htexts : headers.map r.text = headers.map r'.text := List.map_congr_left hall
  exact h (by rw [identity, htexts, identity])

end Record

namespace Table

theorem headers_dedupe (t : Table) : t.dedupe.headers = t.headers := by
  cases t with
  | nil => rfl
  | cons r rest => simp [dedupe, firstsBy]

theorem pairwise_identity_dedupe (t : Table) :
    t.dedupe.Pairwise fun r s => r.identity t.headers ≠ s.identity t.headers :=
  pairwise_firstsBy _ [] t

theorem dedupe_dedupe (t : Table) : t.dedupe.dedupe = t.dedupe := by
  rw [dedupe, headers_dedupe]
  exact firstsBy_eq_self t.pairwise_identity_dedupe fun _ _ => List.not_mem_nil

theorem exists_mem_dedupe {t : Table} {r : Record} (hr : r ∈ t) :
    ∃ s ∈ t.dedupe, s.identity t.headers = r.identity t.headers :=
  exists_mem_firstsBy (fun r : Record => r.identity t.headers) hr

/-- The rows that are left stand in their order, the first row in front, and differ in their
texts; each row that is removed has the identity of one of them, and none is removed later. -/
theorem dedupe_leaves_distinct_rows (t : Table) :
    t.dedupe.Sublist t ∧ t.dedupe.head? = t.head? ∧ t.dedupe.headers = t.headers ∧
      (t.dedupe.Pairwise fun r s => ∃ key ∈ t.headers, r.text key ≠ s.text key) ∧
      (∀ r ∈ t, ∃ s ∈ t.dedupe, s.identity t.headers = r.identity t.headers) ∧
      t.duplicates + t.dedupe.length = t.length ∧
      t.dedupe.dedupe = t.dedupe ∧ t.dedupe.duplicates = 0 := by
  have hdiffer : t.dedupe.Pairwise fun r s => ∃ key ∈ t.headers, r.text key ≠ s.text key :=
    t.pairwise_identity_dedupe.imp Record.exists_text_ne_of_identity_ne
  refine ⟨t.dedupe_sublist, head?_firstsBy _ t, t.headers_dedupe, hdiffer,
    fun r => exists_mem_dedupe, ?_, t.dedupe_dedupe, ?_⟩
  · exact Nat.sub_add_cancel t.dedupe_sublist.length_le
  · rw [duplicates, dedupe_dedupe, Nat.sub_self]

/-- If the unit separator occurs in the texts of one column at most, each row that is removed
repeats the texts of an earlier row that is kept, under all headers. Rows are numbered here, so
that rows with the same cells are told apart. -/
theorem dedupe_removes_repeats (t : Table) (free : String)
    (h : ∀ r ∈ t, ∀ key ∈ t.headers, key ≠ free → '\x1f' ∉ (r.text key).toList) :
    ∃ kept : List (Record × Nat), kept.Sublist t.zipIdx ∧ kept.map Prod.fst = t.dedupe ∧
      ∀ p ∈ t.zipIdx, p ∉ kept →
        ∃ q ∈ kept, q.2 < p.2 ∧ ∀ key ∈ t.headers, q.1.text key = p.1.text key := by
  have hsub := firstsBy_sublist (fun p : Record × Nat => p.1.identity t.headers) [] t.zipIdx
  refine ⟨_, hsub, ?_, fun p hp hout => ?_⟩
  · rw [firstsBy_map (fun r : Record => r.identity t.headers), List.zipIdx_map_fst]
    rfl
  · have hmem : ∀ p ∈ t.zipIdx, p.1 ∈ t := fun p hp => List.fst_mem_of_mem_zipIdx hp
    rcases firstsBy_covers (pairwise_zipIdx t) hp hout with hseen | ⟨q, hq, hlt, hid⟩
    · cases hseen
    · have hqt : q.1 ∈ t := hmem q (hsub.subset hq)
      exact ⟨q, hq, hlt, Record.text_eq_of_identity_eq (h q.1 hqt) (h p.1 (hmem p hp)) hid⟩

/-- The separator occurs under `a`, and the number `1` has the text of the text `1`. -/
theorem dedupe_removes_repeats_of_twins :
    let t : Table := [
      Record.ofList [("a", .text "x\x1f"), ("b", .number (.ofNat 1))],
      Record.ofList [("a", .text "x"), ("b", .text "1")],
      Record.ofList [("b", .text "1"), ("a", .text "x\x1f")]]
    (∀ r ∈ t, ∀ key ∈ t.headers, key ≠ "a" → '\x1f' ∉ (r.text key).toList) ∧
      t.duplicates = 1 ∧
      ∃ kept : List (Record × Nat), kept.Sublist t.zipIdx ∧ kept.map Prod.fst = t.dedupe ∧
        ∀ p ∈ t.zipIdx, p ∉ kept →
          ∃ q ∈ kept, q.2 < p.2 ∧ ∀ key ∈ t.headers, q.1.text key = p.1.text key := by
  intro t
  have h : ∀ r ∈ t, ∀ key ∈ t.headers, key ≠ "a" → '\x1f' ∉ (r.text key).toList := by
    decide +kernel
  exact ⟨h, by decide +kernel, dedupe_removes_repeats t "a" h⟩

end Table

/-- The separator is loaded with the text around it, and makes two rows of different texts the
same. -/
theorem Load.row_of_other_texts_removed :
    let r : Record := Record.ofList [("a", .text "x\x1fy"), ("b", .text "z")]
    let r' : Record := Record.ofList [("a", .text "x"), ("b", .text "y\x1fz")]
    Load.delimited {} ',' "a,b\nx\x1fy,z\nx,y\x1fz\n".toUTF8 = .ok [r, r'] ∧
      Table.dedupe [r, r'] = [r] ∧ r.text "a" ≠ r'.text "a" ∧ r.text "b" ≠ r'.text "b" := by
  decide +kernel

end Tabular
