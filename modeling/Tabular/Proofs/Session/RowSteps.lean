import Mathlib.Data.List.DropRight
import Tabular.Proofs.Session.History

set_option autoImplicit false

/-! # What the working table depends on

The working table is shaped by loads, resets and row steps. A command reads nothing else for it:
not the view, not the analysis table, not what was done before (`working_perform`). So analyses,
views and exports can be left out of a run (`alike_run_filter`), and in a run that goes back to
the loaded table only the row steps since then count (`working_run`).
-/

namespace Tabular

namespace Step

/-- A step that makes rows of the working rows. -/
def isRow : Step → Bool
  | .filter .. | .sort _ | .dedupe | .hierarchy _ | .formula .. => true
  | _ => false

/-- The rows after a step: what it makes of them, or the same ones. -/
def reshape (t : Table) (step : Step) : Table := (step.rows? t).getD t

theorem reshape_of_fault? {step : Step} {e : Error} (h : step.fault? = some e) (t : Table) :
    step.reshape t = t := by
  rw [reshape, rows?_eq_none_of_fault? h]
  rfl

theorem isRow_of_rows? {step : Step} {t t' : Table} (h : step.rows? t = some t') :
    step.isRow = true := by
  cases step with
  | filter | sort | dedupe | hierarchy | formula => rfl
  | _ => simp [rows?] at h

end Step

namespace Session

/-- The working rows after a command, in a session with loaded rows. -/
def Command.reshape (loaded t : Table) : Command → Table
  | .step .reset => loaded
  | .step st => st.reshape t
  | _ => t

/-- A command that loads, goes back to the loaded rows or makes rows. -/
def Command.shapesRows : Command → Bool
  | .load _ | .loadFile .. | .step .reset => true
  | .step st => st.isRow
  | _ => false

def rowSteps (commands : List Command) : List Step :=
  commands.filterMap fun
    | .step step => if step.isRow then some step else none
    | _ => none

/-- The commands after the last reset. -/
def sinceReset (commands : List Command) : List Command :=
  commands.rtakeWhile fun c => !c.isReset

/-! ## One command -/

theorem reshape_step_of_isRow {step : Step} (h : step.isRow = true) (loaded t : Table) :
    (Command.step step).reshape loaded t = step.reshape t := by
  cases step with
  | reset => simp [Step.isRow] at h
  | _ => rfl

theorem reshape_of_not_shapesRows {c : Command} (h : c.shapesRows = false) (loaded t : Table) :
    c.reshape loaded t = t := by
  cases c with
  | load | loadFile => simp [Command.shapesRows] at h
  | exportFile | render => rfl
  | step step =>
      cases step with
      | aggregate | unique | transpose | view => rfl
      | _ => simp [Command.shapesRows, Step.isRow] at h

theorem reshape_of_effect {s s' : Session} {step : Step} (h : Step.Effect s step s') {t : Table}
    (ht : s.canonical = some t) : (Command.step step).reshape t s.working = s'.working := by
  cases h with
  | @rows _ t' hr =>
      rw [reshape_step_of_isRow (Step.isRow_of_rows? hr), Step.reshape, hr]
      rfl
  | @analysis _ t' ha =>
      cases step with
      | aggregate | unique | transpose => rfl
      | _ => simp [Step.analysis?] at ha
  | @reset t' hr =>
      rw [ht] at hr
      cases hr
      rfl
  | view v => rfl

/-- What becomes of the working rows. Nothing is read for it but the operands of the command, how
files are read, and the loaded and the working rows. -/
theorem working_perform (s : Session) (c : Command) :
    (s.perform c).2.working = match c.loaded? s.options, s.canonical with
      | some l, _ => l.1
      | none, some t => c.reshape t s.working
      | none, none => s.working := by
  cases hc : c.loaded? s.options with
  | some l => rw [perform_of_loaded? hc]; rfl
  | none =>
      cases ht : s.canonical with
      | none =>
          have hl : s.isLoaded = false := by rw [isLoaded, ht]; rfl
          rw [perform_of_not_isLoaded hl hc]
      | some t =>
          have hl : s.isLoaded = true := by rw [isLoaded, ht]; rfl
          rcases perform_cases s c with ⟨e, hf, hp⟩ | ⟨-, reply, s', hp, he⟩
          · -- Only a row step can fail here, and then it makes no rows.
            rw [hp]
            cases c with
            | step step =>
                have hf' : step.fault? = some e := by simpa [Command.failure?, hl] using hf
                cases step with
                | reset => simp [Step.fault?] at hf'
                | _ => exact (Step.reshape_of_fault? hf' _).symm
            | _ => rfl
          · rw [hp]
            cases he with
            | load h' => simp [hc] at h'
            | step _ he => exact (reshape_of_effect he ht).symm
            | exportFile | render => rfl

/-! ## Two sessions -/

/-- Two sessions that read files in the same way and have the same loaded and working rows; the
view, the analysis table and the rest may differ. -/
structure Alike (s₁ s₂ : Session) : Prop where
  options : s₁.options = s₂.options
  canonical : s₁.canonical = s₂.canonical
  working : s₁.working = s₂.working

theorem Alike.refl (s : Session) : Alike s s := ⟨rfl, rfl, rfl⟩

theorem Alike.trans {s₁ s₂ s₃ : Session} (h : Alike s₁ s₂) (h' : Alike s₂ s₃) : Alike s₁ s₃ :=
  ⟨h.options.trans h'.options, h.canonical.trans h'.canonical, h.working.trans h'.working⟩

/-- A command does the same to the rows of sessions that are alike. -/
theorem Alike.perform {s₁ s₂ : Session} (h : Alike s₁ s₂) (c : Command) :
    Alike (s₁.perform c).2 (s₂.perform c).2 where
  options := by rw [options_perform, options_perform, h.options]
  canonical := by rw [canonical_perform, canonical_perform, h.options, h.canonical]
  working := by rw [working_perform, working_perform, h.options, h.canonical, h.working]

theorem Alike.run {s₁ s₂ : Session} (h : Alike s₁ s₂) (commands : List Command) :
    Alike (s₁.run commands) (s₂.run commands) := by
  induction commands generalizing s₁ s₂ with
  | nil => exact h
  | cons c rest ih => exact ih (h.perform c)

/-- A command that does not shape rows leaves a session that is alike. -/
theorem alike_perform {c : Command} (h : c.shapesRows = false) (s : Session) :
    Alike (s.perform c).2 s := by
  have hl : c.isLoad = false := by
    cases c with
    | load | loadFile => simp [Command.shapesRows] at h
    | _ => rfl
  have hc : c.loaded? s.options = none := loaded?_eq_none_of_not_isLoad hl s.options
  refine ⟨options_perform s c, by simp [canonical_perform, hc], ?_⟩
  rw [working_perform, hc]
  cases s.canonical with
  | none => rfl
  | some t => exact reshape_of_not_shapesRows h t s.working

/-- Commands that do not shape rows can be left out of a run. -/
theorem alike_run_filter (s : Session) (commands : List Command) :
    Alike (s.run commands) (s.run (commands.filter Command.shapesRows)) := by
  induction commands generalizing s with
  | nil => exact .refl s
  | cons c rest ih =>
      cases h : c.shapesRows with
      | true =>
          rw [List.filter_cons_of_pos h]
          exact ih (s.perform c).2
      | false =>
          -- The rest of the run begins in a session that is alike, and stays so.
          rw [List.filter_cons_of_neg (by simp [h]), run_cons]
          exact ((alike_perform h s).run rest).trans (ih s)

/-! ## Runs without loads -/

/-- The loaded table of a run without loads is the one it began with. -/
theorem canonical_run_of_noLoad {commands : List Command} (h : ∀ c ∈ commands, c.isLoad = false)
    (s : Session) : (s.run commands).canonical = s.canonical := by
  rw [canonical_run, lastLoad?_eq_none h]
  rfl

theorem rowSteps_append (commands more : List Command) :
    rowSteps (commands ++ more) = rowSteps commands ++ rowSteps more :=
  List.filterMap_append

theorem sinceReset_eq_self {commands : List Command} (h : ∀ c ∈ commands, c.isReset = false) :
    sinceReset commands = commands := by
  rw [sinceReset, List.rtakeWhile_eq_self_iff]
  intro c hc
  simp [h c hc]

theorem eq_of_isReset {c : Command} (h : c.isReset = true) : c = .step .reset := by
  cases c with
  | step step =>
      cases step with
      | reset => rfl
      | _ => simp [Command.isReset] at h
  | _ => simp [Command.isReset] at h

theorem foldl_rowSteps_singleton {c : Command} (h : c.isReset = false) (loaded t : Table) :
    (rowSteps [c]).foldl Step.reshape t = c.reshape loaded t := by
  cases c with
  | step step =>
      cases step with
      | reset => simp [Command.isReset] at h
      | _ => rfl
  | _ => rfl

/-- A run without loads goes back to the loaded rows: it has a reset, or it begins where the
working rows are the loaded ones, as they are after a load. -/
structure FromLoaded (s : Session) (commands : List Command) : Prop where
  noLoad : ∀ c ∈ commands, c.isLoad = false
  begins : (∃ c ∈ commands, c.isReset = true) ∨ s.canonical = some s.working

/-- Such a run makes its working rows of the loaded ones, by the row steps since its last reset. -/
theorem working_run {s : Session} {t : Table} (ht : s.canonical = some t)
    {commands : List Command} (h : FromLoaded s commands) :
    (s.run commands).working = (rowSteps (sinceReset commands)).foldl Step.reshape t := by
  -- The last command decides: a reset forgets what came before it, and anything else carries
  -- the rows on that the run without it has made.
  induction commands using List.reverseRecOn with
  | nil =>
      have hw : s.canonical = some s.working := by simpa using h.begins
      rw [ht] at hw
      cases hw
      rfl
  | append_singleton commands c ih =>
      have hc : c.isLoad = false := h.noLoad c (by simp)
      have hn : ∀ d ∈ commands, d.isLoad = false := fun d hd => h.noLoad d (by simp [hd])
      have hcan : (s.run commands).canonical = some t := by rw [canonical_run_of_noLoad hn, ht]
      rw [run_concat, working_perform, loaded?_eq_none_of_not_isLoad hc, hcan]
      cases hr : c.isReset with
      | true =>
          rw [sinceReset, List.rtakeWhile_concat_neg _ _ _ (by simp [hr]), eq_of_isReset hr]
          rfl
      | false =>
          have hb : (∃ d ∈ commands, d.isReset = true) ∨ s.canonical = some s.working := by
            simpa [hr, or_and_right, exists_or] using h.begins
          rw [sinceReset, List.rtakeWhile_concat_pos _ _ _ (by simp [hr]), rowSteps_append,
            List.foldl_append, foldl_rowSteps_singleton hr t]
          exact congrArg (c.reshape t) (ih ⟨hn, hb⟩)

/-- Two runs that go back to the same loaded table and do the same row steps since then end with
the same working table. So what follows a reset does not depend on what came before it, and
commands that do not shape rows may be put anywhere in a run or left out of it. -/
theorem working_eq_of_rowSteps_eq :
    (∀ (s₁ s₂ : Session) (commands₁ commands₂ : List Command),
      s₁.isLoaded = true → s₁.canonical = s₂.canonical →
      FromLoaded s₁ commands₁ → FromLoaded s₂ commands₂ →
      rowSteps (sinceReset commands₁) = rowSteps (sinceReset commands₂) →
      (s₁.run commands₁).working = (s₂.run commands₂).working) ∧
    (∀ (s : Session) (before after : List Command) (t : Table),
      (s.run before).canonical = some t →
      (∀ c ∈ after, c.isLoad = false ∧ c.isReset = false) →
      (s.run (before ++ .step .reset :: after)).working =
        (rowSteps after).foldl Step.reshape t) ∧
    ∀ (s : Session) (commands₁ commands₂ : List Command),
      commands₁.filter Command.shapesRows = commands₂.filter Command.shapesRows →
      (s.run commands₁).working = (s.run commands₂).working := by
  -- The first part is `working_run` on both sides; the others need no load between, or any run at
  -- all.
  refine ⟨?_, ?_, ?_⟩
  · intro s₁ s₂ commands₁ commands₂ hl hc h₁ h₂ h
    obtain ⟨t, ht⟩ := Option.isSome_iff_exists.mp hl
    rw [working_run ht h₁, working_run (hc ▸ ht) h₂, h]
  · intro s before after t ht ha
    have hc : ((s.run before).perform (.step .reset)).2.canonical = some t := by
      rw [canonical_perform, ht]
      rfl
    have hw : ((s.run before).perform (.step .reset)).2.working = t := by
      rw [working_perform, ht]
      rfl
    have hf : FromLoaded ((s.run before).perform (.step .reset)).2 after :=
      ⟨fun c h => (ha c h).1, .inr (by rw [hc, hw])⟩
    rw [run_append, run_cons, working_run hc hf, sinceReset_eq_self fun c h => (ha c h).2]
  · intro s commands₁ commands₂ h
    rw [(alike_run_filter s commands₁).working, h, (alike_run_filter s commands₂).working]

/-- One session sorts, looks at an analysis, goes back and filters; the other one, with another
limit and another view, only filters. -/
theorem working_eq_after_sort_and_reset :
    let t : Table := [Record.empty.put "A" (.text "y"), Record.empty.put "A" (.text "x")]
    let keep : Command := .step (.filter "A" .equals "x")
    let s₁ := (start {} 50).restart t none
    let s₂ := { (start {} 2).restart t none with view := .analysis }
    let commands₁ := [.step (.sort "A"), .step (.unique "A"), .step .reset, keep, .render .csv]
    s₁.isLoaded = true ∧ s₁.canonical = s₂.canonical ∧
    FromLoaded s₁ commands₁ ∧ FromLoaded s₂ [keep] ∧
    rowSteps (sinceReset commands₁) = rowSteps (sinceReset [keep]) ∧
    (s₁.run commands₁).working = (s₂.run [keep]).working := by
  intro t keep s₁ s₂ commands₁
  have h₁ : FromLoaded s₁ commands₁ :=
    ⟨by simp [commands₁, keep, Command.isLoad], .inl ⟨.step .reset, by simp [commands₁], rfl⟩⟩
  have h₂ : FromLoaded s₂ [keep] := ⟨by simp [keep, Command.isLoad], .inr rfl⟩
  have h : rowSteps (sinceReset commands₁) = rowSteps (sinceReset [keep]) := rfl
  exact ⟨rfl, rfl, h₁, h₂, h, working_eq_of_rowSteps_eq.1 s₁ s₂ commands₁ [keep] rfl rfl h₁ h₂ h⟩

end Session

end Tabular
