import Tabular.Proofs.Hierarchy.Rows
import Tabular.Proofs.Load.Rows
import Tabular.Proofs.Session.History
import Tabular.Proofs.Table.Sort

set_option autoImplicit false

/-! # Columns of a session

A row step extends the keys of every record alike, by its own new columns, and drops or moves
none (`Step.keys_of_rows?`); an analysis always makes a rectangular table. So a session whose
loaded tables are rectangular stays so, with the loaded columns first (`Session.Aligned`).
-/

namespace Tabular

/-! ## Analyses -/

namespace Table

theorem rectangular_aggregate (t : Table) (group value : String) (f : AggregateFunction) :
    (t.aggregate group value f).Rectangular := by
  have hk (p : String × Aggregate.Tally) :
      (Aggregate.groupRecord group value f p.1 p.2).keys =
        extended (extended [] [group]) [f.column value] := by
    rw [Aggregate.groupRecord, Record.keys_put_eq_extended, Record.keys_put_eq_extended]
    rfl
  exact rectangular_map hk _

theorem rectangular_unique (t : Table) (column : String) : (t.unique column).Rectangular := by
  have hk (c : Cell) : (Record.empty.put uniqueColumn c).keys = extended [] [uniqueColumn] :=
    Record.keys_put_eq_extended _ _ _
  exact rectangular_map hk _

/-- The keys of a transposed record number the rows, and so do not depend on its header. -/
theorem rectangular_transpose (t : Table) (headers : List String) (limit : Nat) :
    (t.transpose headers limit).Rectangular := by
  have hk (header : String) : (columnRecord (t.take limit) header).keys =
      extended [fieldColumn] (((t.take limit).zipIdx 1).map fun p => rowColumn p.2) :=
    Record.keys_foldl_put (fun p : Record × Nat => rowColumn p.2) (fun p => p.1.get header)
      ((t.take limit).zipIdx 1) _
  exact rectangular_map hk headers

end Table

/-! ## Row steps -/

namespace Step

/-- The columns that a step puts cells into. -/
def newColumns : Step → List String
  | .hierarchy _ => [Hierarchy.keyColumn, Hierarchy.idColumn]
  | .formula name _ => [Text.trimmed name]
  | _ => []

/-- Each row that a row step makes comes from a row before it, with the new columns of the step
added to its keys. -/
theorem keys_of_rows? {step : Step} {t t' : Table} (h : step.rows? t = some t') {r' : Record}
    (hr : r' ∈ t') : ∃ r ∈ t, r'.keys = extended r.keys step.newColumns := by
  cases step with
  | filter column op value =>
      cases h
      exact ⟨r', (Table.mem_filterRows.mp hr).1, rfl⟩
  | sort column =>
      cases h
      exact ⟨r', (t.sort_perm column).subset hr, rfl⟩
  | dedupe =>
      cases h
      exact ⟨r', t.dedupe_sublist.subset hr, rfl⟩
  -- Steps with unusable operands make no rows.
  | hierarchy columns =>
      by_cases hc : columns = []
      · simp [rows?, hc, Hierarchy.assign, Except.toOption] at h
      · rw [rows?, Hierarchy.assign_eq_ok hc] at h
        cases h
        obtain ⟨r, hm, rfl⟩ := List.mem_map.mp hr
        exact ⟨r, hm, Hierarchy.keys_mark r _ _⟩
  | formula name f =>
      by_cases hn : Text.trimmed name = ""
      · simp [rows?, Formula.columnName_of_blank hn, Except.toOption] at h
      · rw [rows?, Formula.columnName_of_not_blank hn] at h
        cases h
        obtain ⟨r, hm, rfl⟩ := List.mem_map.mp hr
        exact ⟨r, hm, Record.keys_put_eq_extended _ _ _⟩
  | _ => cases h

theorem rectangular_of_rows? {step : Step} {t t' : Table} (h : step.rows? t = some t')
    (ht : t.Rectangular) : t'.Rectangular := by
  intro r hr r' hr'
  obtain ⟨a, ha, hk⟩ := keys_of_rows? h hr
  obtain ⟨b, hb, hk'⟩ := keys_of_rows? h hr'
  rw [hk, hk', ht a ha b hb]

theorem rectangular_of_analysis? {step : Step} {limit : Nat} {t t' : Table}
    (h : step.analysis? limit t = some t') : t'.Rectangular := by
  cases step with
  | aggregate group value f =>
      cases h
      exact t.rectangular_aggregate group value f
  | unique column =>
      cases h
      exact t.rectangular_unique column
  | transpose =>
      cases h
      exact t.rectangular_transpose _ _
  | _ => cases h

end Step

namespace Session

/-! ## Sessions -/

/-- All tables are rectangular, and every working row begins with the columns that were
loaded. -/
structure Aligned (s : Session) : Prop where
  canonical : ∀ t, s.canonical = some t → t.Rectangular
  working : s.working.Rectangular
  analysis : s.analysis.Rectangular
  loaded : ∀ r ∈ s.working, ∃ t, s.canonical = some t ∧ t.headers <+: r.keys

theorem Aligned.start (o : Load.Options) (limit : Nat) : (Session.start o limit).Aligned where
  canonical t h := by cases h
  working := Table.rectangular_nil
  analysis := Table.rectangular_nil
  loaded r h := by cases h

/-- Rows that are the loaded ones begin with the loaded columns. -/
theorem loaded_columns_of_mem {s : Session} {t : Table} (hc : s.canonical = some t)
    (ht : t.Rectangular) {r : Record} (hr : r ∈ t) :
    ∃ t', s.canonical = some t' ∧ t'.headers <+: r.keys :=
  ⟨t, hc, (Table.keys_eq_headers ht hr).symm ▸ List.prefix_refl _⟩

theorem Aligned.restart (s : Session) {t : Table} (ht : t.Rectangular)
    (source : Option Source) : (s.restart t source).Aligned where
  canonical t' h := by
    cases h
    exact ht
  working := ht
  analysis := Table.rectangular_nil
  loaded r hr := loaded_columns_of_mem rfl ht hr

theorem Aligned.effect {s s' : Session} {step : Step} (hs : s.Aligned)
    (h : Step.Effect s step s') : s'.Aligned := by
  cases h with
  | @rows step t h =>
      -- New columns stand behind the loaded ones, which are still in front.
      refine ⟨hs.canonical, Step.rectangular_of_rows? h hs.working, hs.analysis, ?_⟩
      intro r' hr'
      obtain ⟨r, hr, hk⟩ := Step.keys_of_rows? h hr'
      obtain ⟨t', hc, hp⟩ := hs.loaded r hr
      exact ⟨t', hc, hk ▸ hp.trans (prefix_extended r.keys step.newColumns)⟩
  | analysis h =>
      exact ⟨hs.canonical, hs.working, Step.rectangular_of_analysis? h, hs.loaded⟩
  | @reset t h =>
      have ht : t.Rectangular := hs.canonical t h
      exact ⟨hs.canonical, ht, hs.analysis, fun r hr => loaded_columns_of_mem h ht hr⟩
  | view v => exact ⟨hs.canonical, hs.working, hs.analysis, hs.loaded⟩

/-- What a command does keeps a session aligned, if the table that it loads is rectangular. -/
theorem Aligned.perform {s : Session} (hs : s.Aligned) {c : Command}
    (hc : ∀ t source, c.loaded? s.options = some (t, source) → t.Rectangular) :
    (s.perform c).2.Aligned := by
  rcases perform_cases s c with ⟨e, -, hp⟩ | ⟨-, reply, s', hp, he⟩
  · rw [hp]
    exact hs
  · rw [hp]
    cases he with
    | @load _ t source h => exact .restart s (hc t source h) source
    | step _ h => exact hs.effect h
    | exportFile | render => exact hs

theorem Aligned.run {s : Session} (hs : s.Aligned) {commands : List Command}
    (hc : ∀ c ∈ commands, ∀ t source, c.loaded? s.options = some (t, source) → t.Rectangular) :
    (s.run commands).Aligned := by
  induction commands generalizing s with
  | nil => exact hs
  | cons c rest ih =>
      have hp : (s.perform c).2.Aligned := hs.perform (hc c (by simp))
      rw [run_cons]
      refine ih hp fun d hd => ?_
      -- The options are those of the start of the run all along.
      rw [options_perform]
      exact hc d (by simp [hd])

/-- When every loaded table is rectangular, the working and the analysis table of any run are
rectangular, and a working table with rows begins with the columns of the loaded one. Reading
delimited text or a workbook always gives a rectangular table. -/
theorem run_keeps_columns :
    (∀ (o : Load.Options) (limit : Nat) (commands : List Command),
      (∀ c ∈ commands, ∀ t source, c.loaded? o = some (t, source) → t.Rectangular) →
      ((start o limit).run commands).working.Rectangular ∧
      ((start o limit).run commands).analysis.Rectangular ∧
      (((start o limit).run commands).working ≠ [] →
        ∃ t, ((start o limit).run commands).canonical = some t ∧
          t.headers <+: ((start o limit).run commands).working.headers)) ∧
    (∀ (o : Load.Options) (delimiter : UInt8) (bytes : ByteArray) (t : Table),
      Load.delimited o delimiter bytes = .ok t → t.Rectangular) ∧
    ∀ (o : Load.Options) (first : Option Sheet) (t : Table),
      Load.workbook o first = .ok t → t.Rectangular := by
  refine ⟨?_, ?_, ?_⟩
  · intro o limit commands hc
    have hs : ((start o limit).run commands).Aligned := (Aligned.start o limit).run hc
    refine ⟨hs.working, hs.analysis, fun hw => ?_⟩
    obtain ⟨r, hr, hk⟩ := Table.exists_keys_eq_headers hw
    rw [← hk]
    exact hs.loaded r hr
  · intro o delimiter bytes t h
    exact Load.rectangular_of_delimited h
  · intro o first t h
    exact Load.rectangular_of_workbook h

/-- A formula overwrites a loaded column, a hierarchy adds its own two, and a reload drops what
was there. -/
theorem run_keeps_columns_of_overwrite :
    let t : Table := [Record.empty.put "ID" (.text "x"), Record.empty.put "ID" .empty]
    let f : Formula := .numeric ⟨.round, "ID", none, none⟩
    let commands : List Command :=
      [.load [], .load t, .step (.formula " ID" f), .step (.hierarchy ["ID"])]
    (∀ c ∈ commands, ∀ t source, c.loaded? {} = some (t, source) → t.Rectangular) ∧
    ((start {} 50).run commands).working ≠ [] ∧
    ∃ t, ((start {} 50).run commands).canonical = some t ∧
      t.headers <+: ((start {} 50).run commands).working.headers := by
  intro t f commands
  have ht : t.Rectangular := by
    have hk : ∀ r ∈ t, r.keys = ["ID"] := by decide
    exact Table.rectangular_of_forall hk
  have hc : ∀ c ∈ commands, ∀ t source,
      c.loaded? {} = some (t, source) → t.Rectangular := by
    intro c hm t' source h
    obtain rfl | rfl | rfl | rfl : c = .load [] ∨ c = .load t ∨
        c = .step (.formula " ID" f) ∨ c = .step (.hierarchy ["ID"]) := by
      simpa [commands] using hm
    · cases h
      exact Table.rectangular_nil
    · cases h
      exact ht
    · cases h
    · cases h
  have hw : ((start {} 50).run commands).working ≠ [] := by decide
  exact ⟨hc, hw, (run_keeps_columns.1 {} 50 commands hc).2.2 hw⟩

end Session

end Tabular
