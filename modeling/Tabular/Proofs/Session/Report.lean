import Tabular.Proofs.Session.Columns

set_option autoImplicit false

/-! # Outcomes tell the truth

What the outcome of a command says, against the sessions before and after it: the view, the rows
that were read and made, what was removed, what could not be computed, and the new columns
(`Outcome.Truthful`). Two operations fill in most outcomes and others add to them, so the counts
are first read off those two (`Outcome.Counts`).
-/

namespace Tabular

namespace Session

/-! ## What an outcome has to say -/

/-- The number of rows that a command reads: none when it loads, those of the table it shows when
it only shows one, and those of the working table otherwise. -/
def Command.rowsRead (before after : Session) : Command → Nat
  | .load _ | .loadFile .. => 0
  | .step (.view _) => after.active.length
  | _ => before.working.length

/-- The number of rows on which the formula of a command has no value. -/
def Command.faultyRows (t : Table) : Command → Nat
  | .step (.formula _ f) => t.countP fun r => !(f.evaluate r).isOk
  | _ => 0

/-- The number of rows that a command removes as duplicates. -/
def Command.rowsRemoved (read made : Nat) : Command → Nat
  | .step .dedupe => read - made
  | _ => 0

end Session

/-- The outcome of a command says what the session before it and the session after it show. -/
structure Outcome.Truthful (o : Outcome) (c : Session.Command) (before after : Session) :
    Prop where
  view : o.view = after.view
  rowsAfter : o.rowsAfter = after.active.length
  rowsBefore : o.rowsBefore = c.rowsRead before after
  removed : o.removed = c.rowsRemoved o.rowsBefore o.rowsAfter
  faults : o.faults = c.faultyRows before.working
  columnsAdded : ∀ name ∈ o.columnsAdded, ∀ r ∈ after.working, name ∈ r.keys

/-! ## Counts -/

/-- The view after an operation and the rows that it read and made. -/
structure Outcome.Counts (o : Outcome) (read : Nat) (after : Session) : Prop where
  view : o.view = after.view
  rowsAfter : o.rowsAfter = after.active.length
  rowsBefore : o.rowsBefore = read

namespace Session

/-- An operation that replaces a table counts the working rows as read, whichever table is shown
before it. -/
theorem counts_replaceWorking {s s' : Session} {t : Table} {description : String} {o : Outcome}
    (h : s.replaceWorking t description = (.ok o, s')) : o.Counts s.working.length s' := by
  cases h
  exact ⟨rfl, rfl, rfl⟩

theorem counts_replaceAnalysis {s s' : Session} {t : Table} {description : String} {o : Outcome}
    (h : s.replaceAnalysis t description = (.ok o, s')) : o.Counts s.working.length s' := by
  cases h
  exact ⟨rfl, rfl, rfl⟩

theorem whenLoaded_eq_ok {s s' : Session} {result : Result} {o : Outcome}
    (h : s.whenLoaded result = (.ok o, s')) : result = (.ok o, s') := by
  rw [whenLoaded] at h
  split at h
  · exact h
  · cases h

end Session

/-! ## Steps -/

namespace Step

theorem effect_of_apply {step : Step} {s s' : Session} {o : Outcome}
    (h : step.apply s = (.ok o, s')) : Effect s step s' := by
  rcases apply_cases step s with ⟨-, ha⟩ | ⟨-, e, -, ha⟩ | ⟨-, -, o', s'', ha, he⟩
  · simp [ha] at h
  · simp [ha] at h
  · obtain ⟨-, rfl⟩ : o' = o ∧ s'' = s' := by simpa [ha] using h
    exact he

/-- After a step every working row has the new columns of the step. -/
theorem mem_keys_of_effect {step : Step} {s s' : Session} (h : Effect s step s') {name : String}
    (hn : name ∈ step.newColumns) {r : Record} (hr : r ∈ s'.working) : name ∈ r.keys := by
  cases h with
  | rows h =>
      obtain ⟨r₀, -, hk⟩ := keys_of_rows? h hr
      rw [hk]
      exact mem_extended_of_mem_right hn
  | analysis h =>
      -- Analyses have no new columns, and steps with new columns are no analyses.
      cases step with
      | aggregate | unique | transpose => cases hn
      | _ => cases h
  | reset | view => cases hn

/-- What a step reports beside its counts. -/
structure Reports (step : Step) (t : Table) (o : Outcome) : Prop where
  removed : o.removed = (Session.Command.step step).rowsRemoved o.rowsBefore o.rowsAfter
  faults : o.faults = (Session.Command.step step).faultyRows t
  columnsAdded : o.columnsAdded = step.newColumns

theorem faults_eq_countP (f : Formula) (t : Table) :
    f.faults t = t.countP fun r => !(f.evaluate r).isOk := by
  rw [Formula.faults, ← List.countP_eq_length_filter]
  rfl

/-- The outcome of a step counts its rows and reports what it did to them. -/
theorem reports_of_apply {step : Step} {s s' : Session} {o : Outcome}
    (h : step.apply s = (.ok o, s')) :
    o.Counts ((Session.Command.step step).rowsRead s s') s' ∧ step.Reports s.working o := by
  cases step with
  -- Steps are sorted by what they replace; the last three report more than their counts.
  | filter | sort =>
      have ha := Session.whenLoaded_eq_ok h
      refine ⟨Session.counts_replaceWorking ha, ?_⟩
      cases ha
      exact ⟨rfl, rfl, rfl⟩
  | aggregate | unique | transpose =>
      have ha := Session.whenLoaded_eq_ok h
      refine ⟨Session.counts_replaceAnalysis ha, ?_⟩
      cases ha
      exact ⟨rfl, rfl, rfl⟩
  | dedupe =>
      cases Session.whenLoaded_eq_ok h
      exact ⟨⟨rfl, rfl, rfl⟩, rfl, rfl, rfl⟩
  | reset =>
      cases hc : s.canonical with
      | none => simp [apply, Session.reset, hc] at h
      | some t =>
          have ha : s.replaceWorking t "Reset to loaded data" = (.ok o, s') := by
            rw [← h]
            simp only [apply, Session.reset, hc]
          refine ⟨Session.counts_replaceWorking ha, ?_⟩
          cases ha
          exact ⟨rfl, rfl, rfl⟩
  | view v =>
      cases Session.whenLoaded_eq_ok h
      exact ⟨⟨rfl, rfl, rfl⟩, rfl, rfl, rfl⟩
  | hierarchy columns =>
      have ha := Session.whenLoaded_eq_ok h
      by_cases hc : columns = []
      · simp [Hierarchy.assign, hc] at ha
      · rw [Hierarchy.assign_of_ne_nil hc] at ha
        cases ha
        exact ⟨⟨rfl, rfl, rfl⟩, rfl, rfl, rfl⟩
  | formula name f =>
      have ha := Session.whenLoaded_eq_ok h
      by_cases hn : Text.trimmed name = ""
      · simp [Formula.columnName_of_blank hn] at ha
      · rw [Formula.columnName_of_not_blank hn] at ha
        cases ha
        exact ⟨⟨rfl, rfl, rfl⟩, rfl, faults_eq_countP f s.working, rfl⟩

end Step

namespace Session

/-- The outcome of every command that gives one says what is so: the view and the rows that the
session has after it, the rows that were read, the duplicates that were removed, the rows
that a formula had no value for, and columns that every working row has now. No more rows are
left by a removal of duplicates than were read. -/
theorem outcome_truthful {s s' : Session} {c : Command} {o : Outcome}
    (h : s.perform c = (.ok (.outcome o), s')) :
    o.Truthful c s s' ∧ (c = .step .dedupe → o.rowsAfter ≤ o.rowsBefore) := by
  cases c with
  | load t =>
      cases h
      exact ⟨⟨rfl, rfl, rfl, rfl, rfl, fun _ hn => absurd hn List.not_mem_nil⟩, by simp⟩
  | loadFile files path =>
      cases hf : Load.file s.options files path with
      | error e => simp [perform, loadFile, hf, Except.map] at h
      | ok l =>
          simp only [perform, loadFile, hf] at h
          cases h
          exact ⟨⟨rfl, rfl, rfl, rfl, rfl, fun _ hn => absurd hn List.not_mem_nil⟩, by simp⟩
  | step step =>
      rcases ha : step.apply s with ⟨e | o', s''⟩
      · simp [perform, ha, Except.map] at h
      · obtain ⟨rfl, rfl⟩ : o' = o ∧ s'' = s' := by simpa [perform, ha, Except.map] using h
        obtain ⟨hc, hr⟩ := Step.reports_of_apply ha
        have hk : ∀ name ∈ o'.columnsAdded, ∀ r ∈ s''.working, name ∈ r.keys := by
          rw [hr.columnsAdded]
          exact fun name hn r hm => Step.mem_keys_of_effect (Step.effect_of_apply ha) hn hm
        refine ⟨⟨hc.view, hc.rowsAfter, hc.rowsBefore, hr.removed, hr.faults, hk⟩, ?_⟩
        intro hd
        cases hd
        cases whenLoaded_eq_ok ha
        exact s.working.dedupe_sublist.length_le
  -- Writing and rendering give a count or a text in place of an outcome.
  | exportFile format path files =>
      cases hx : (s.exportFile format path files).1 with
      | error e => simp [perform, hx, Except.map] at h
      | ok rows => simp [perform, hx, Except.map] at h
  | render format =>
      cases hx : s.render format with
      | error e => simp [perform, hx, Except.map] at h
      | ok rendering => simp [perform, hx, Except.map] at h

/-- Duplicates are removed while an analysis is shown: the working rows are counted, and they are
shown after it. -/
theorem outcome_truthful_of_dedupe :
    let r := Record.empty.put "A" (.text "x")
    let t : Table := [r, Record.empty.put "A" (.text "y"), r]
    let s := ((start {} 50).restart t none).run [.step (.unique "A")]
    let o : Outcome := { description := "Removed 1 duplicates", view := .main, rowsBefore := 3,
                         rowsAfter := 2, removed := 1 }
    let s' := { s with working := t.take 2, view := .main }
    s.view = .analysis ∧ s.perform (.step .dedupe) = (.ok (.outcome o), s') ∧
    o.Truthful (.step .dedupe) s s' ∧ o.rowsAfter ≤ o.rowsBefore := by
  intro r t s o s'
  have h : s.perform (.step .dedupe) = (.ok (.outcome o), s') := by decide +kernel
  exact ⟨rfl, h, (outcome_truthful h).1, (outcome_truthful h).2 rfl⟩

end Session

end Tabular
