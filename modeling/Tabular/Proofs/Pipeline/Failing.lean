import Tabular.Proofs.Pipeline.Sequence
import Tabular.Proofs.Text.Trim

set_option autoImplicit false

/-! # Where a pipeline fails

Once a table is loaded, only the operands of a step decide whether it fails (`Step.Unusable`):
no table is refused by any operation. So a pipeline fails at its first step with unusable
operands, whatever the table is, and without a loaded table at its first step.
-/

namespace Tabular

namespace Step

/-! ## Steps -/

/-- The operands of a step cannot be used, for the reason given: a hierarchy needs a column, and
the name of a formula has to have a character that is not blank. -/
inductive Unusable : Step → Error → Prop
  | hierarchy : Unusable (.hierarchy []) .noColumnsSelected
  | formula {name : String} {f : Formula} (h : ∀ c ∈ name.toList, Text.isBlank c = true) :
      Unusable (.formula name f) .emptyColumnName

theorem fault?_eq_some_iff {step : Step} {e : Error} :
    step.fault? = some e ↔ step.Unusable e := by
  constructor
  · intro h
    cases step with
    | hierarchy columns =>
        obtain ⟨rfl, rfl⟩ : columns = [] ∧ Error.noColumnsSelected = e := by
          simpa [fault?] using h
        exact .hierarchy
    | formula name f =>
        obtain ⟨hn, rfl⟩ : Text.trimmed name = "" ∧ Error.emptyColumnName = e := by
          simpa [fault?] using h
        exact .formula (Text.trimmed_eq_empty_iff.mp hn)
    | _ => simp [fault?] at h
  · rintro (_ | hb)
    · rfl
    · simp [fault?, Text.trimmed_eq_empty_iff.mpr hb]

theorem fault?_eq_none_iff {step : Step} : step.fault? = none ↔ ∀ e, ¬ step.Unusable e := by
  rw [Option.eq_none_iff_forall_ne_some]
  exact forall_congr' fun e => not_congr fault?_eq_some_iff

/-- No step changes what was loaded. -/
theorem canonical_of_effect {s s' : Session} {step : Step} (h : Effect s step s') :
    s'.canonical = s.canonical := by
  cases h <;> rfl

end Step

namespace Pipeline

/-! ## Runs of usable steps -/

/-- Steps with usable operands all succeed, and leave what was loaded. -/
theorem sequence_of_usable {steps : List Step} (h : ∀ step ∈ steps, step.fault? = none)
    {s : Session} (hl : s.isLoaded = true) :
    ∃ outcomes s', Step.Sequence s steps outcomes s' ∧ s'.isLoaded = true := by
  induction steps generalizing s with
  | nil => exact ⟨[], s, .nil s, hl⟩
  | cons step rest ih =>
      have hf : step.fault? = none := h step (by simp)
      have hr : ∀ st ∈ rest, st.fault? = none := fun st hst => h st (by simp [hst])
      obtain ⟨o, s', ha, he⟩ := Step.apply_of_fault?_eq_none hl hf
      have hl' : s'.isLoaded = true := by
        rw [Session.isLoaded, Step.canonical_of_effect he]
        exact hl
      obtain ⟨os, s'', hs, hl''⟩ := ih hr hl'
      exact ⟨o :: os, s'', .cons ha hs, hl''⟩

/-- A pipeline either has usable steps only, or a first one that is not usable. -/
theorem usable_or_first_unusable (steps : List Step) :
    (∀ step ∈ steps, step.fault? = none) ∨
    ∃ before step after cause, steps = before ++ step :: after ∧
      (∀ st ∈ before, st.fault? = none) ∧ step.fault? = some cause := by
  cases h : steps.find? fun step => step.fault?.isSome with
  | none =>
      left
      intro step hs
      simpa using List.find?_eq_none.mp h step hs
  | some step =>
      right
      obtain ⟨hp, before, after, rfl, hb⟩ := List.find?_eq_some_iff_append.mp h
      obtain ⟨cause, hc⟩ := Option.isSome_iff_exists.mp hp
      exact ⟨before, step, after, cause, rfl, fun st hst => by simpa using hb st hst, hc⟩

/-! ## The failing step -/

/-- The error that a pipeline ends in says which step is the first with unusable operands. -/
def FailsWith (p : Pipeline) (e : Error) : Prop :=
  ∃ before step after cause, p.steps = before ++ step :: after ∧
    (∀ st ∈ before, ∀ c, ¬ st.Unusable c) ∧ step.Unusable cause ∧
    e = .step (before.length + 1) step.tag cause

theorem run_of_first_unusable {p : Pipeline} {before after : List Step} {step : Step}
    {cause : Error} (hp : p.steps = before ++ step :: after)
    (hb : ∀ st ∈ before, st.fault? = none) (hf : step.fault? = some cause) {s : Session}
    (hl : s.isLoaded = true) :
    (p.run s).1 = .error (.step (before.length + 1) step.tag cause) := by
  obtain ⟨outcomes, s', hs, hl'⟩ := sequence_of_usable hb hl
  have ha : (step.apply s').1 = .error cause := by rw [Step.apply_of_fault? hl' hf]
  rw [run, hp, runFrom_of_first_failure hs ha, Nat.add_comm]

theorem run_error_iff {p : Pipeline} {s : Session} (hl : s.isLoaded = true) (e : Error) :
    (p.run s).1 = .error e ↔ p.FailsWith e := by
  constructor
  · intro h
    rcases usable_or_first_unusable p.steps with hu | ⟨before, step, after, cause, hp, hb, hf⟩
    · obtain ⟨outcomes, s', hs, -⟩ := sequence_of_usable hu hl
      rw [run, runFrom_of_sequence hs] at h
      cases h
    · rw [run_of_first_unusable hp hb hf hl] at h
      cases h
      exact ⟨before, step, after, cause, hp, fun st hst => Step.fault?_eq_none_iff.mp (hb st hst),
        Step.fault?_eq_some_iff.mp hf, rfl⟩
  · rintro ⟨before, step, after, cause, hp, hb, hf, rfl⟩
    exact run_of_first_unusable hp (fun st hst => Step.fault?_eq_none_iff.mpr (hb st hst))
      (Step.fault?_eq_some_iff.mpr hf) hl

theorem exists_failsWith_iff {p : Pipeline} :
    (∃ e, p.FailsWith e) ↔ ∃ step ∈ p.steps, ∃ cause, step.Unusable cause := by
  constructor
  · rintro ⟨e, before, step, after, cause, hp, -, hu, -⟩
    exact ⟨step, by simp [hp], cause, hu⟩
  · rintro ⟨step, hs, cause, hu⟩
    rcases usable_or_first_unusable p.steps with h | ⟨before, st, after, c, hp, hb, hf⟩
    · exact absurd hu (Step.fault?_eq_none_iff.mp (h step hs) cause)
    · exact ⟨_, before, st, after, c, hp, fun d hd => Step.fault?_eq_none_iff.mp (hb d hd),
        Step.fault?_eq_some_iff.mp hf, rfl⟩

theorem run_error_iff_of_not_isLoaded {p : Pipeline} {s : Session} (hl : s.isLoaded = false)
    (e : Error) :
    (p.run s).1 = .error e ↔
      ∃ step rest, p.steps = step :: rest ∧ e = .step 1 step.tag .notLoaded := by
  cases hp : p.steps with
  | nil => simp [run, hp]
  | cons step rest =>
      have ha : (step.apply s).1 = .error .notLoaded := by
        rw [Step.apply_of_not_isLoaded hl]
      rw [run, hp, runFrom_cons_of_error ha]
      constructor
      · intro h
        cases h
        exact ⟨step, rest, rfl, rfl⟩
      · rintro ⟨st, more, hst, rfl⟩
        cases hst
        rfl

/-- With a loaded table a pipeline fails exactly when some step is a hierarchy without columns or
a formula with a blank name, and the error has the number, the operation and the reason of the
first such step; so two sessions with loaded tables see the same failure or both none. Without a
loaded table every pipeline but the empty one fails, at its first step. -/
theorem run_fails_iff_unusable (p : Pipeline) (s : Session) :
    (s.isLoaded = true →
      ((∃ e, (p.run s).1 = .error e) ↔ ∃ step ∈ p.steps, ∃ cause, step.Unusable cause) ∧
      (∀ e, (p.run s).1 = .error e ↔ p.FailsWith e) ∧
      ∀ other : Session, other.isLoaded = true →
        ∀ e, (p.run s).1 = .error e ↔ (p.run other).1 = .error e) ∧
    (s.isLoaded = false →
      ((∃ e, (p.run s).1 = .error e) ↔ p.steps ≠ []) ∧
      ∀ e, (p.run s).1 = .error e →
        ∃ step rest, p.steps = step :: rest ∧ e = .step 1 step.tag .notLoaded) := by
  constructor
  · intro hl
    -- Nothing of the session is left in the reason of the failure.
    refine ⟨?_, fun e => run_error_iff hl e, fun other ho e => ?_⟩
    · rw [← exists_failsWith_iff]
      exact exists_congr fun e => run_error_iff hl e
    · rw [run_error_iff hl, run_error_iff ho]
  · intro hl
    refine ⟨?_, fun e h => (run_error_iff_of_not_isLoaded hl e).mp h⟩
    constructor
    · rintro ⟨e, h⟩ hn
      obtain ⟨step, rest, hp, -⟩ := (run_error_iff_of_not_isLoaded hl e).mp h
      simp [hn] at hp
    · intro hn
      obtain ⟨step, rest, hp⟩ := List.exists_cons_of_ne_nil hn
      exact ⟨_, (run_error_iff_of_not_isLoaded hl _).mpr ⟨step, rest, hp, rfl⟩⟩

/-- The second step has a name of blanks only, and the third one comes too late. -/
theorem run_fails_at_blank_name :
    let s := (Session.start {} 50).restart [] none
    let empty := Session.start {} 50
    let f : Formula := .numeric ⟨.round, "A", none, none⟩
    let p : Pipeline := ⟨[.sort "A", .formula " \u3000" f, .hierarchy []]⟩
    s.isLoaded = true ∧ empty.isLoaded = false ∧
    (p.run s).1 = .error (.step 2 "formula" .emptyColumnName) ∧
    ∃ e, (p.run empty).1 = .error e := by
  intro s empty f p
  have hb : ∀ c ∈ " \u3000".toList, Text.isBlank c = true :=
    List.all_eq_true.mp (by decide +kernel)
  have hu : (Step.formula " \u3000" f).Unusable .emptyColumnName := .formula hb
  have hs : ∀ st ∈ [Step.sort "A"], ∀ c, ¬ st.Unusable c := by
    intro st hst c hc
    rw [List.mem_singleton.mp hst] at hc
    cases hc
  have hf : p.FailsWith (.step 2 "formula" .emptyColumnName) :=
    ⟨[.sort "A"], _, [.hierarchy []], _, rfl, hs, hu, rfl⟩
  refine ⟨rfl, rfl, (((run_fails_iff_unusable p s).1 rfl).2.1 _).mpr hf, ?_⟩
  exact (((run_fails_iff_unusable p empty).2 rfl).1).mpr (List.cons_ne_nil _ _)

end Pipeline

end Tabular
