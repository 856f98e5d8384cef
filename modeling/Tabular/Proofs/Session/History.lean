import Mathlib.Data.List.Induction
import Tabular.Proofs.Session.Effect

set_option autoImplicit false

/-! # Sessions and their history

What a session holds, read off the commands that led to it: the loaded table and its source are
those of the last load (`canonical_run`, `source_run`), a session without a load is still as it
started (`run_of_lastLoad?_eq_none`), and an analysis table comes from an analysis that was done
since (`analysis_run`).
-/

namespace Tabular.Session

/-! ## Loads -/

theorem loaded?_eq_none_of_failure? {s : Session} {c : Command} {e : Error}
    (h : c.failure? s = some e) : c.loaded? s.options = none := by
  cases c with
  | load t => simp [Command.failure?] at h
  | loadFile files path =>
      cases hf : Load.file s.options files path with
      | error e' => simp [Command.loaded?, hf, Except.toOption]
      | ok l => simp [Command.failure?, errorOf?, hf] at h
  | _ => rfl

theorem loaded?_eq_none_of_not_isLoad {c : Command} (h : c.isLoad = false) (o : Load.Options) :
    c.loaded? o = none := by
  cases c with
  | load | loadFile => simp [Command.isLoad] at h
  | _ => rfl

theorem perform_of_loaded? {s : Session} {c : Command} {t : Table} {source : Option Source}
    (h : c.loaded? s.options = some (t, source)) : (s.perform c).2 = s.restart t source := by
  rcases perform_cases s c with ⟨e, hf, -⟩ | ⟨-, reply, s', hp, he⟩
  · simp [loaded?_eq_none_of_failure? hf] at h
  · rw [hp]
    cases he with
    | load h' =>
        rw [h] at h'
        cases h'
        rfl
    | _ => simp [Command.loaded?] at h

/-- What a command loads is there exactly when the command loads and succeeds. -/
theorem isSome_loaded?_iff (s : Session) (c : Command) :
    (c.loaded? s.options).isSome = true ↔ c.isLoad = true ∧ (s.perform c).1.isOk = true := by
  rcases perform_cases s c with ⟨e, hf, hp⟩ | ⟨-, reply, s', hp, he⟩
  · simp [loaded?_eq_none_of_failure? hf, hp, Except.isOk, Except.toBool]
  · rw [hp]
    cases he with
    | load h =>
        cases hc : c.isLoad with
        | false => simp [loaded?_eq_none_of_not_isLoad hc] at h
        | true => simp [h, Except.isOk, Except.toBool]
    | _ => simp [Command.loaded?, Command.isLoad]

/-- A command that loads nothing keeps what was loaded, and how. -/
theorem perform_of_loaded?_eq_none {s : Session} {c : Command} (h : c.loaded? s.options = none) :
    (s.perform c).2.options = s.options ∧ (s.perform c).2.transposeLimit = s.transposeLimit ∧
      (s.perform c).2.canonical = s.canonical ∧ (s.perform c).2.source = s.source := by
  rcases perform_cases s c with ⟨e, -, hp⟩ | ⟨-, reply, s', hp, he⟩
  · rw [hp]
    exact ⟨rfl, rfl, rfl, rfl⟩
  · rw [hp]
    cases he with
    | load h' => simp [h] at h'
    | step _ he => cases he <;> exact ⟨rfl, rfl, rfl, rfl⟩
    | exportFile | render => exact ⟨rfl, rfl, rfl, rfl⟩

theorem options_perform (s : Session) (c : Command) : (s.perform c).2.options = s.options := by
  cases h : c.loaded? s.options with
  | none => exact (perform_of_loaded?_eq_none h).1
  | some l => rw [perform_of_loaded? h]; rfl

theorem transposeLimit_perform (s : Session) (c : Command) :
    (s.perform c).2.transposeLimit = s.transposeLimit := by
  cases h : c.loaded? s.options with
  | none => exact (perform_of_loaded?_eq_none h).2.1
  | some l => rw [perform_of_loaded? h]; rfl

/-- The loaded table is the one that a command loads, if it loads one. -/
theorem canonical_perform (s : Session) (c : Command) :
    (s.perform c).2.canonical = ((c.loaded? s.options).map Prod.fst).or s.canonical := by
  cases h : c.loaded? s.options with
  | none => simp [(perform_of_loaded?_eq_none h).2.2.1]
  | some l => rw [perform_of_loaded? h]; rfl

theorem source_perform (s : Session) (c : Command) :
    (s.perform c).2.source = (c.loaded? s.options).elim s.source Prod.snd := by
  cases h : c.loaded? s.options with
  | none => simp [(perform_of_loaded?_eq_none h).2.2.2]
  | some l => rw [perform_of_loaded? h]; rfl

/-! ## The last load of a run -/

/-- The table of the last load of a run that succeeded, and the file that it is from. -/
def lastLoad? (o : Load.Options) (commands : List Command) : Option (Table × Option Source) :=
  (commands.filterMap (Command.loaded? o)).getLast?

theorem lastLoad?_concat (o : Load.Options) (commands : List Command) (c : Command) :
    lastLoad? o (commands ++ [c]) = (c.loaded? o).or (lastLoad? o commands) := by
  cases h : c.loaded? o <;> simp [lastLoad?, List.filterMap_append, h]

theorem lastLoad?_eq_none {commands : List Command} (h : ∀ c ∈ commands, c.isLoad = false)
    (o : Load.Options) : lastLoad? o commands = none := by
  have hn : commands.filterMap (Command.loaded? o) = [] := by
    rw [List.filterMap_eq_nil_iff]
    intro c hc
    exact loaded?_eq_none_of_not_isLoad (h c hc) o
  rw [lastLoad?, hn]
  rfl

theorem run_concat (s : Session) (commands : List Command) (c : Command) :
    s.run (commands ++ [c]) = ((s.run commands).perform c).2 := by
  rw [run_append, run_cons, run_nil]

theorem options_run (s : Session) (commands : List Command) :
    (s.run commands).options = s.options := by
  induction commands using List.reverseRecOn with
  | nil => rfl
  | append_singleton commands c ih => rw [run_concat, options_perform, ih]

theorem transposeLimit_run (s : Session) (commands : List Command) :
    (s.run commands).transposeLimit = s.transposeLimit := by
  induction commands using List.reverseRecOn with
  | nil => rfl
  | append_singleton commands c ih => rw [run_concat, transposeLimit_perform, ih]

theorem canonical_run (s : Session) (commands : List Command) :
    (s.run commands).canonical = ((lastLoad? s.options commands).map Prod.fst).or s.canonical := by
  induction commands using List.reverseRecOn with
  | nil => rfl
  | append_singleton commands c ih =>
      rw [run_concat, canonical_perform, options_run, ih, lastLoad?_concat]
      cases c.loaded? s.options <;> simp

theorem source_run (s : Session) (commands : List Command) :
    (s.run commands).source = (lastLoad? s.options commands).elim s.source Prod.snd := by
  induction commands using List.reverseRecOn with
  | nil => rfl
  | append_singleton commands c ih =>
      rw [run_concat, source_perform, options_run, ih, lastLoad?_concat]
      cases c.loaded? s.options <;> simp

/-! ## Sessions without a load -/

theorem perform_of_not_isLoaded {s : Session} (hl : s.isLoaded = false) {c : Command}
    (h : c.loaded? s.options = none) : (s.perform c).2 = s := by
  rcases perform_cases s c with ⟨e, -, hp⟩ | ⟨-, reply, s', hp, he⟩
  · rw [hp]
  · cases he with
    | load h' => simp [h] at h'
    | step h' | exportFile h' | render h' => simp [hl] at h'

theorem run_of_lastLoad?_eq_none {s : Session} (hl : s.isLoaded = false) {commands : List Command}
    (h : lastLoad? s.options commands = none) : s.run commands = s := by
  induction commands using List.reverseRecOn with
  | nil => rfl
  | append_singleton commands c ih =>
      obtain ⟨hc, hcs⟩ : c.loaded? s.options = none ∧ lastLoad? s.options commands = none := by
        simpa [lastLoad?_concat] using h
      rw [run_concat, ih hcs, perform_of_not_isLoaded hl hc]

/-! ## Analyses -/

/-- A table is the result of an analysis in a run from `s`, and nothing was loaded after it. -/
def AnalysedSinceLoad (s : Session) (commands : List Command) (t : Table) : Prop :=
  ∃ before step after, commands = before ++ .step step :: after ∧
    (s.run before).isLoaded = true ∧
    step.analysis? s.transposeLimit (s.run before).working = some t ∧
    ∀ c ∈ after, c.loaded? s.options = none

theorem AnalysedSinceLoad.concat {s : Session} {commands : List Command} {t : Table} {c : Command}
    (h : AnalysedSinceLoad s commands t) (hc : c.loaded? s.options = none) :
    AnalysedSinceLoad s (commands ++ [c]) t := by
  obtain ⟨before, step, after, rfl, hl, ht, ha⟩ := h
  refine ⟨before, step, after ++ [c], by simp, hl, ht, ?_⟩
  intro d hd
  rcases List.mem_append.mp hd with hd | hd
  · exact ha d hd
  · rw [List.mem_singleton.mp hd, hc]

/-- A command that loads nothing keeps the analysis table or makes it of the working table. -/
theorem analysis_perform {s : Session} {c : Command} (h : c.loaded? s.options = none) :
    (s.perform c).2.analysis = s.analysis ∨
      ∃ step, c = .step step ∧ s.isLoaded = true ∧
        step.analysis? s.transposeLimit s.working = some (s.perform c).2.analysis := by
  rcases perform_cases s c with ⟨e, -, hp⟩ | ⟨-, reply, s', hp, he⟩
  · exact .inl (by rw [hp])
  · rw [hp]
    cases he with
    | load h' => simp [h] at h'
    | exportFile | render => exact .inl rfl
    | @step step _ hl he =>
        cases he with
        | analysis ht => exact .inr ⟨step, rfl, hl, ht⟩
        | rows | reset | view => exact .inl rfl

theorem analysis_run {s : Session} (h : s.analysis = []) (commands : List Command) :
    (s.run commands).analysis = [] ∨
      AnalysedSinceLoad s commands (s.run commands).analysis := by
  -- A last command that loads empties the table. Any other one keeps it, and the analysis that
  -- made it, or is the analysis that makes it.
  induction commands using List.reverseRecOn with
  | nil => exact .inl h
  | append_singleton commands c ih =>
      rw [run_concat]
      cases hc : c.loaded? s.options with
      | some l =>
          rw [← options_run s commands] at hc
          rw [perform_of_loaded? hc]
          exact .inl rfl
      | none =>
          have hc' : c.loaded? (s.run commands).options = none := by rw [options_run, hc]
          rcases analysis_perform hc' with ha | ⟨step, rfl, hl, ht⟩
          · rw [ha]
            exact ih.imp_right fun hr => hr.concat hc
          · rw [transposeLimit_run] at ht
            exact .inr ⟨commands, step, [], rfl, hl, ht, by simp⟩

/-! ## Every run -/

/-- Whatever has been asked of a new session: the loaded table is the one of the last load that
succeeded; without one nothing is there; there is a source if that load was of a file; the
analysis table is empty or from an analysis since; and a command that succeeds next changes what
`Command.Effect` says and nothing else. -/
theorem run_start_invariant (o : Load.Options) (limit : Nat) (commands : List Command) :
    let s := (start o limit).run commands
    (∀ c, (c.loaded? o).isSome = true ↔ c.isLoad = true ∧ (s.perform c).1.isOk = true) ∧
    s.canonical = (lastLoad? o commands).map Prod.fst ∧
    (lastLoad? o commands = none →
      s.working = [] ∧ s.analysis = [] ∧ s.view = .main ∧ s.source = none) ∧
    s.source = (lastLoad? o commands).bind Prod.snd ∧
    (s.analysis = [] ∨ AnalysedSinceLoad (start o limit) commands s.analysis) ∧
    ∀ c reply s', s.perform c = (.ok reply, s') → Command.Effect s c s' := by
  intro s
  -- Each part is the run lemma of its table, begun at a new session.
  refine ⟨?_, ?_, ?_, ?_, analysis_run rfl commands, ?_⟩
  · intro c
    rw [← isSome_loaded?_iff, options_run (start o limit) commands]
    rfl
  · have h := canonical_run (start o limit) commands
    change s.canonical = ((lastLoad? o commands).map Prod.fst).or none at h
    rw [h, Option.or_none]
  · intro h
    have hs : s = start o limit := run_of_lastLoad?_eq_none rfl h
    rw [hs]
    exact ⟨rfl, rfl, rfl, rfl⟩
  · have h := source_run (start o limit) commands
    change s.source = (lastLoad? o commands).elim none Prod.snd at h
    rw [h]
    cases lastLoad? o commands <;> rfl
  · intro c reply s' h
    exact (effect_of_perform h).2

end Tabular.Session
