import Tabular.Session.Command

set_option autoImplicit false

/-! # Effects

What steps and commands make of a session, said apart from the operations that do them: the
tables that a step computes from the working table (`Step.rows?`, `Step.analysis?`), the change
of the session (`Step.Effect`, `Command.Effect`), and the reason why nothing is done
(`Step.fault?`, `Command.failure?`).

`Step.apply_cases` and `Session.perform_cases` say everything that a step and a command can do;
later proofs use them and open no operation.
-/

namespace Tabular

/-! ## Steps -/

namespace Step

/-- The rows that a row step makes of rows. Other steps make none, and neither does a row step
with unusable operands. -/
def rows? : Step → Table → Option Table
  | .filter column op value, t => some (t.filterRows column op value)
  | .sort column, t => some (t.sort column)
  | .dedupe, t => some t.dedupe
  | .hierarchy columns, t => (Hierarchy.assign columns t).toOption
  | .formula name f, t => (Formula.columnName name).toOption.map (f.addColumn t)
  | _, _ => none

/-- The table that an analysis makes of rows, of which it transposes so many. Other steps make
none. -/
def analysis? (limit : Nat) : Step → Table → Option Table
  | .aggregate group value f, t => some (t.aggregate group value f)
  | .unique column, t => some (t.unique column)
  | .transpose, t => some (t.transpose t.headers (Nat.min t.length limit))
  | _, _ => none

/-- What is wrong with the operands of a step: a hierarchy needs columns and a formula needs a
name. -/
def fault? : Step → Option Error
  | .hierarchy columns => if columns = [] then some .noColumnsSelected else none
  | .formula name _ => if Text.trimmed name = "" then some .emptyColumnName else none
  | _ => none

/-- What a step makes of a session. Row steps and resets replace the working table and show it,
analyses replace the analysis table and show that, and a view is only shown. -/
inductive Effect (s : Session) : Step → Session → Prop
  | rows {step : Step} {t : Table} (h : step.rows? s.working = some t) :
      Effect s step { s with working := t, view := .main }
  | analysis {step : Step} {t : Table} (h : step.analysis? s.transposeLimit s.working = some t) :
      Effect s step { s with analysis := t, view := .analysis }
  | reset {t : Table} (h : s.canonical = some t) :
      Effect s .reset { s with working := t, view := .main }
  | view (v : View) : Effect s (.view v) { s with view := v }

theorem rows?_eq_none_of_fault? {step : Step} {e : Error} (h : step.fault? = some e) (t : Table) :
    step.rows? t = none := by
  cases step with
  | hierarchy columns =>
      obtain ⟨rfl, -⟩ : columns = [] ∧ Error.noColumnsSelected = e := by simpa [fault?] using h
      rfl
  | formula name f =>
      obtain ⟨hn, -⟩ : Text.trimmed name = "" ∧ Error.emptyColumnName = e := by
        simpa [fault?] using h
      rw [rows?, Formula.columnName_of_blank hn]
      rfl
  | _ => simp [fault?] at h

theorem apply_of_not_isLoaded {s : Session} (h : s.isLoaded = false) (step : Step) :
    step.apply s = (.error .notLoaded, s) := by
  cases step with
  | reset =>
      have hc : s.canonical = none := by simpa [Session.isLoaded] using h
      simp [apply, Session.reset, hc]
  | _ => exact Session.whenLoaded_of_not_isLoaded h _

theorem apply_of_fault? {s : Session} (h : s.isLoaded = true) {step : Step} {e : Error}
    (hf : step.fault? = some e) : step.apply s = (.error e, s) := by
  cases step with
  | hierarchy columns =>
      obtain ⟨rfl, rfl⟩ : columns = [] ∧ Error.noColumnsSelected = e := by
        simpa [fault?] using hf
      exact Session.whenLoaded_of_isLoaded h _
  | formula name f =>
      obtain ⟨hn, rfl⟩ : Text.trimmed name = "" ∧ Error.emptyColumnName = e := by
        simpa [fault?] using hf
      simp only [apply, Session.applyFormula, Formula.columnName_of_blank hn]
      exact Session.whenLoaded_of_isLoaded h _
  | _ => simp [fault?] at hf

theorem apply_of_fault?_eq_none {s : Session} (h : s.isLoaded = true) {step : Step}
    (hf : step.fault? = none) : ∃ o s', step.apply s = (.ok o, s') ∧ Effect s step s' := by
  cases step with
  | filter | sort | dedupe => exact ⟨_, _, Session.whenLoaded_of_isLoaded h _, .rows rfl⟩
  | aggregate | unique | transpose =>
      exact ⟨_, _, Session.whenLoaded_of_isLoaded h _, .analysis rfl⟩
  | view v => exact ⟨_, _, Session.whenLoaded_of_isLoaded h _, .view v⟩
  | reset =>
      obtain ⟨t, ht⟩ := Option.isSome_iff_exists.mp h
      have ha : s.reset = s.replaceWorking t "Reset to loaded data" := by
        simp only [Session.reset, ht]
      exact ⟨_, _, ha, .reset ht⟩
  -- Only these two can have unusable operands, and `hf` says that they have none.
  | hierarchy columns =>
      have hc : columns ≠ [] := by simpa [fault?] using hf
      have hr : (hierarchy columns).rows? s.working =
          some (Hierarchy.number columns [] s.working) := by
        rw [rows?, Hierarchy.assign_of_ne_nil hc]
        rfl
      simp only [apply, Session.assignHierarchy, Hierarchy.assign_of_ne_nil hc]
      exact ⟨_, _, Session.whenLoaded_of_isLoaded h _, .rows hr⟩
  | formula name f =>
      have hn : Text.trimmed name ≠ "" := by simpa [fault?] using hf
      have hr : (formula name f).rows? s.working =
          some (f.addColumn s.working (Text.trimmed name)) := by
        rw [rows?, Formula.columnName_of_not_blank hn]
        rfl
      simp only [apply, Session.applyFormula, Formula.columnName_of_not_blank hn]
      exact ⟨_, _, Session.whenLoaded_of_isLoaded h _, .rows hr⟩

/-- Everything that a step can do. -/
theorem apply_cases (step : Step) (s : Session) :
    (s.isLoaded = false ∧ step.apply s = (.error .notLoaded, s)) ∨
    (s.isLoaded = true ∧ ∃ e, step.fault? = some e ∧ step.apply s = (.error e, s)) ∨
    (s.isLoaded = true ∧ step.fault? = none ∧
      ∃ o s', step.apply s = (.ok o, s') ∧ Effect s step s') := by
  cases h : s.isLoaded with
  | false => exact .inl ⟨rfl, apply_of_not_isLoaded h step⟩
  | true =>
      cases hf : step.fault? with
      | some e => exact .inr (.inl ⟨rfl, e, rfl, apply_of_fault? h hf⟩)
      | none => exact .inr (.inr ⟨rfl, rfl, apply_of_fault?_eq_none h hf⟩)

/-- A step that fails leaves the session as it was. -/
theorem eq_of_apply_error {s s' : Session} {step : Step} {e : Error}
    (h : step.apply s = (.error e, s')) : s' = s := by
  rcases apply_cases step s with ⟨-, ha⟩ | ⟨-, e', -, ha⟩ | ⟨-, -, o, s'', ha, -⟩
  · exact (congrArg Prod.snd (h.symm.trans ha) :)
  · exact (congrArg Prod.snd (h.symm.trans ha) :)
  · simp [ha] at h

end Step

/-! ## Commands -/

namespace Session

/-- The table that a command loads, and the file that it is from. Other commands load nothing,
and neither does one that cannot read its file. -/
def Command.loaded? (o : Load.Options) : Command → Option (Table × Option Source)
  | .load t => some (t, none)
  | .loadFile files path =>
    (Load.file o files path).toOption.map fun (t, source) => (t, some source)
  | _ => none

def errorOf? {α : Type} : Except Error α → Option Error
  | .ok _ => none
  | .error e => some e

/-- The reason why a command is not done in a session. -/
def Command.failure? (s : Session) : Command → Option Error
  | .load _ => none
  | .loadFile files path => errorOf? (Load.file s.options files path)
  | .step st => if s.isLoaded then st.fault? else some .notLoaded
  | .exportFile format path files =>
    if s.isLoaded then errorOf? (Export.file format s.active path files).1 else some .notLoaded
  | .render format =>
    if s.isLoaded then errorOf? (Export.render format s.active) else some .notLoaded

/-- What a command makes of a session. A load starts it anew, a step has its own effect, and
nothing comes of writing what is shown. -/
inductive Command.Effect (s : Session) : Command → Session → Prop
  | load {c : Command} {t : Table} {source : Option Source}
      (h : c.loaded? s.options = some (t, source)) : Effect s c (s.restart t source)
  | step {step : Step} {s' : Session} (hl : s.isLoaded = true) (h : Step.Effect s step s') :
      Effect s (.step step) s'
  | exportFile {format : ExportFormat} {path : String} {files : Files}
      (hl : s.isLoaded = true) : Effect s (.exportFile format path files) s
  | render {format : ExportFormat} (hl : s.isLoaded = true) : Effect s (.render format) s

/-- What a command can do that keeps the session and gives back a value or an error. -/
theorem perform_cases_of_kept {s : Session} {c : Command} {α : Type} {x : Except Error α}
    {f : α → Reply} (hp : s.perform c = (x.map f, s)) (hf : c.failure? s = errorOf? x)
    (he : ∀ a, x = .ok a → Command.Effect s c s) :
    (∃ e, c.failure? s = some e ∧ s.perform c = (.error e, s)) ∨
    (c.failure? s = none ∧ ∃ reply s', s.perform c = (.ok reply, s') ∧ Command.Effect s c s') := by
  cases x with
  | error e => exact .inl ⟨e, hf, hp⟩
  | ok a => exact .inr ⟨hf, f a, s, hp, he a rfl⟩

/-- Everything that a command can do. -/
theorem perform_cases (s : Session) (c : Command) :
    (∃ e, c.failure? s = some e ∧ s.perform c = (.error e, s)) ∨
    (c.failure? s = none ∧ ∃ reply s', s.perform c = (.ok reply, s') ∧ Command.Effect s c s') := by
  cases c with
  | load t => exact .inr ⟨rfl, _, _, rfl, .load rfl⟩
  | loadFile files path =>
      cases hf : Load.file s.options files path with
      | error e =>
          refine .inl ⟨e, by rw [Command.failure?, hf]; rfl, ?_⟩
          simp only [perform, loadFile, hf]
          rfl
      | ok l =>
          have hl : (Command.loadFile files path).loaded? s.options = some (l.1, some l.2) := by
            rw [Command.loaded?, hf]
            rfl
          refine .inr ⟨by rw [Command.failure?, hf]; rfl, ?_⟩
          simp only [perform, loadFile, hf]
          exact ⟨_, _, rfl, .load hl⟩
  | step step =>
      rcases Step.apply_cases step s with ⟨hl, ha⟩ | ⟨hl, e, hf, ha⟩ | ⟨hl, hf, o, s', ha, he⟩
      · exact .inl ⟨.notLoaded, by simp [Command.failure?, hl], by rw [perform, ha]; rfl⟩
      · exact .inl ⟨e, by simp [Command.failure?, hl, hf], by rw [perform, ha]; rfl⟩
      · refine .inr ⟨by simp [Command.failure?, hl, hf], .outcome o, s', ?_, .step hl he⟩
        rw [perform, ha]
        rfl
  -- The last two leave the session as it is, whether they succeed or not.
  | exportFile format path files =>
      refine perform_cases_of_kept (x := (s.exportFile format path files).1) rfl ?_ ?_
      · simp only [Command.failure?, exportFile]
        split <;> rfl
      · intro rows h
        cases hl : s.isLoaded with
        | false => simp [exportFile, hl] at h
        | true => exact .exportFile hl
  | render format =>
      refine perform_cases_of_kept (x := s.render format) rfl ?_ ?_
      · simp only [Command.failure?, render]
        split <;> rfl
      · intro rendering h
        cases hl : s.isLoaded with
        | false => simp [render, hl] at h
        | true => exact .render hl

theorem effect_of_perform {s s' : Session} {c : Command} {reply : Reply}
    (h : s.perform c = (.ok reply, s')) : c.failure? s = none ∧ Command.Effect s c s' := by
  rcases perform_cases s c with ⟨e, -, hp⟩ | ⟨hf, reply', s'', hp, he⟩
  · simp [hp] at h
  · obtain ⟨-, rfl⟩ : reply' = reply ∧ s'' = s' := by simpa [hp] using h
    exact ⟨hf, he⟩

end Session

end Tabular
