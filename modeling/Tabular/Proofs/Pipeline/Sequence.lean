import Tabular.Pipeline
import Tabular.Proofs.Session.Effect

set_option autoImplicit false

/-! # Pipelines step by step

A pipeline does what its steps do one after the other (`Step.Sequence`), up to the first one that
fails. Its runs compose: a pipeline of two parts runs the first part and then, if nothing failed,
the second one, with the numbers of its steps moved on.
-/

namespace Tabular

/-- Steps that are done one after the other and all succeed, with their outcomes. -/
inductive Step.Sequence : Session → List Step → List Outcome → Session → Prop
  | nil (s : Session) : Sequence s [] [] s
  | cons {s s' s'' : Session} {step : Step} {o : Outcome} {steps : List Step}
      {outcomes : List Outcome} (h : step.apply s = (.ok o, s'))
      (rest : Sequence s' steps outcomes s'') : Sequence s (step :: steps) (o :: outcomes) s''

/-- The error of a step that comes so many steps later. -/
def Error.later (k : Nat) : Error → Error
  | .step number op cause => .step (number + k) op cause
  | e => e

namespace Pipeline

/-! ## One step -/

theorem runFrom_cons_of_ok {s s' : Session} {step : Step} {o : Outcome}
    (h : step.apply s = (.ok o, s')) (number : Nat) (rest : List Step) :
    runFrom number (step :: rest) s =
      ((runFrom (number + 1) rest s').1.map (o :: ·), (runFrom (number + 1) rest s').2) := by
  simp only [runFrom, h]
  rcases runFrom (number + 1) rest s' with ⟨_ | _, _⟩ <;> rfl

theorem runFrom_cons_of_error {s : Session} {step : Step} {e : Error}
    (h : (step.apply s).1 = .error e) (number : Nat) (rest : List Step) :
    runFrom number (step :: rest) s = (.error (.step number step.tag e), s) := by
  -- The run ends in what the failing step leaves, which is the session before it.
  have ha : step.apply s = (.error e, s) :=
    Prod.ext h (Step.eq_of_apply_error (Prod.ext h rfl))
  simp only [runFrom, ha]

/-- A step succeeds or fails. -/
theorem apply_ok_or_error (step : Step) (s : Session) :
    (∃ o s', step.apply s = (.ok o, s')) ∨ ∃ e, (step.apply s).1 = .error e := by
  rcases h : step.apply s with ⟨e | o, s'⟩
  · exact .inr ⟨e, rfl⟩
  · exact .inl ⟨o, s', rfl⟩

/-! ## Runs -/

/-- Steps that succeed leave the rest of the run to the session that they reach. -/
theorem runFrom_append_of_sequence {s s' : Session} {steps : List Step} {outcomes : List Outcome}
    (hs : Step.Sequence s steps outcomes s') (number : Nat) (more : List Step) :
    runFrom number (steps ++ more) s =
      ((runFrom (number + steps.length) more s').1.map (outcomes ++ ·),
        (runFrom (number + steps.length) more s').2) := by
  induction hs generalizing number with
  | nil s =>
      rcases h : runFrom number more s with ⟨_ | _, _⟩ <;> simp [h, Except.map]
  -- The number of the first step moves along the sequence.
  | @cons _ _ s'' _ _ steps _ h _ ih =>
      have hn : number + 1 + steps.length = number + (steps.length + 1) := by omega
      rw [List.cons_append, runFrom_cons_of_ok h, ih, List.length_cons, hn]
      rcases runFrom (number + (steps.length + 1)) more s'' with ⟨_ | _, _⟩ <;> rfl

theorem runFrom_of_sequence {s s' : Session} {steps : List Step} {outcomes : List Outcome}
    (hs : Step.Sequence s steps outcomes s') (number : Nat) :
    runFrom number steps s = (.ok outcomes, s') := by
  have h := runFrom_append_of_sequence hs number []
  simpa [Except.map] using h

theorem runFrom_of_first_failure {s s' : Session} {before : List Step} {outcomes : List Outcome}
    (hs : Step.Sequence s before outcomes s') {step : Step} {e : Error}
    (he : (step.apply s').1 = .error e) (number : Nat) (after : List Step) :
    runFrom number (before ++ step :: after) s =
      (.error (.step (number + before.length) step.tag e), s') := by
  rw [runFrom_append_of_sequence hs, runFrom_cons_of_error he]
  rfl

/-- Steps all succeed, or there is a first one that fails. -/
theorem sequence_or_first_failure (steps : List Step) (s : Session) :
    (∃ outcomes s', Step.Sequence s steps outcomes s') ∨
    ∃ before step after outcomes s' e, steps = before ++ step :: after ∧
      Step.Sequence s before outcomes s' ∧ (step.apply s').1 = .error e := by
  induction steps generalizing s with
  | nil => exact .inl ⟨[], s, .nil s⟩
  | cons step rest ih =>
      rcases apply_ok_or_error step s with ⟨o, s', h⟩ | ⟨e, h⟩
      · rcases ih s' with ⟨os, s'', hs⟩ | ⟨before, st, after, os, s'', e, rfl, hs, he⟩
        · exact .inl ⟨o :: os, s'', .cons h hs⟩
        · exact .inr ⟨step :: before, st, after, o :: os, s'', e, rfl, .cons h hs, he⟩
      · exact .inr ⟨[], step, rest, [], s, e, rfl, .nil s, h⟩

theorem runFrom_eq_ok_iff {number : Nat} {steps : List Step} {s s' : Session}
    {outcomes : List Outcome} :
    runFrom number steps s = (.ok outcomes, s') ↔ Step.Sequence s steps outcomes s' := by
  constructor
  · intro h
    rcases sequence_or_first_failure steps s with
      ⟨os, s'', hs⟩ | ⟨before, step, after, os, s'', e, rfl, hs, he⟩
    · rw [runFrom_of_sequence hs] at h
      cases h
      exact hs
    · rw [runFrom_of_first_failure hs he] at h
      cases h
  · intro hs
    exact runFrom_of_sequence hs number

theorem runFrom_eq_error_iff {number : Nat} {steps : List Step} {s s' : Session} {e : Error} :
    runFrom number steps s = (.error e, s') ↔
      ∃ before step after outcomes cause, steps = before ++ step :: after ∧
        Step.Sequence s before outcomes s' ∧ (step.apply s').1 = .error cause ∧
        e = .step (number + before.length) step.tag cause := by
  constructor
  · intro h
    rcases sequence_or_first_failure steps s with
      ⟨os, s'', hs⟩ | ⟨before, step, after, os, s'', cause, rfl, hs, he⟩
    · rw [runFrom_of_sequence hs] at h
      cases h
    · rw [runFrom_of_first_failure hs he] at h
      cases h
      exact ⟨before, step, after, os, cause, rfl, hs, he, rfl⟩
  · rintro ⟨before, step, after, outcomes, cause, rfl, hs, he, rfl⟩
    exact runFrom_of_first_failure hs he number after

/-- Numbering the steps from later on moves the number of the failing step and nothing else. -/
theorem runFrom_add (number k : Nat) (steps : List Step) (s : Session) :
    runFrom (number + k) steps s =
      ((runFrom number steps s).1.mapError (Error.later k), (runFrom number steps s).2) := by
  rcases sequence_or_first_failure steps s with
    ⟨os, s', hs⟩ | ⟨before, step, after, os, s', e, rfl, hs, he⟩
  · rw [runFrom_of_sequence hs, runFrom_of_sequence hs]
    rfl
  · have hn : number + k + before.length = number + before.length + k := by omega
    rw [runFrom_of_first_failure hs he, runFrom_of_first_failure hs he, hn]
    rfl

/-- A pipeline succeeds as the sequence of its steps. It fails with the number, the operation and
the error of the first step that fails, in the session that the steps before it reach. A pipeline
of two parts runs the first part and then, if that succeeds, the second, whose failure is numbered
from the end of the first. -/
theorem run_eq_sequence (p : Pipeline) (s : Session) :
    (∀ outcomes s', p.run s = (.ok outcomes, s') ↔ Step.Sequence s p.steps outcomes s') ∧
    (∀ e s', p.run s = (.error e, s') ↔
      ∃ before step after outcomes cause, p.steps = before ++ step :: after ∧
        Step.Sequence s before outcomes s' ∧ (step.apply s').1 = .error cause ∧
        e = .step (before.length + 1) step.tag cause) ∧
    ∀ q : Pipeline, run ⟨p.steps ++ q.steps⟩ s =
      match p.run s with
      | (.error e, s') => (.error e, s')
      | (.ok outcomes, s') => match q.run s' with
        | (.error e, s'') => (.error (e.later p.steps.length), s'')
        | (.ok more, s'') => (.ok (outcomes ++ more), s'') := by
  refine ⟨fun outcomes s' => runFrom_eq_ok_iff, ?_, ?_⟩
  · intro e s'
    rw [run, runFrom_eq_error_iff]
    simp only [Nat.add_comm 1]
  · intro q
    -- If the first part fails, the second one is never begun.
    rcases sequence_or_first_failure p.steps s with
      ⟨os, s', hs⟩ | ⟨before, step, after, os, s', e, hp, hs, he⟩
    · simp only [run, runFrom_of_sequence hs]
      rw [runFrom_append_of_sequence hs, runFrom_add]
      rcases runFrom 1 q.steps s' with ⟨_ | _, _⟩ <;> rfl
    · simp only [run, hp, List.append_assoc, List.cons_append, runFrom_of_first_failure hs he]

end Pipeline

end Tabular
