import Tabular.Proofs.Session.Effect

set_option autoImplicit false

/-! # Failures

A command that fails changes nothing, and it fails exactly for the reason that
`Command.failure?` gives. Without a loaded table every command but a load fails for that reason,
whatever its operands.
-/

namespace Tabular.Session

theorem perform_eq_error_iff {s s' : Session} {c : Command} {e : Error} :
    s.perform c = (.error e, s') ↔ c.failure? s = some e ∧ s' = s := by
  rcases perform_cases s c with ⟨e', hf, hp⟩ | ⟨hf, reply, s'', hp, -⟩
  · rw [hp, hf]
    simp [eq_comm]
  · rw [hp, hf]
    simp

theorem failure?_of_not_isLoaded {s : Session} (h : s.isLoaded = false) {c : Command}
    (hc : c.isLoad = false) : c.failure? s = some .notLoaded := by
  cases c with
  | load | loadFile => simp [Command.isLoad] at hc
  | _ => simp [Command.failure?, h]

/-- A command fails exactly when `Command.failure?` gives a reason, and then with this error and
without any change. Without a loaded table that is `Error.notLoaded` for all that is not a load.
A missing file, a file that cannot be read as a table, a hierarchy without columns, a formula
with a blank name and an export that is refused are such failures. -/
theorem failed_perform_keeps_session (s : Session) :
    (∀ c e s', s.perform c = (.error e, s') ↔ c.failure? s = some e ∧ s' = s) ∧
    (s.canonical = none → ∀ c : Command, c.isLoad = false →
      s.perform c = (.error .notLoaded, s)) ∧
    (∀ files path fault, files.read path = .error fault →
      s.perform (.loadFile files path) = (.error (.file path fault), s)) ∧
    (∀ files path bytes e, files.read path = .ok bytes →
      Load.content s.options path bytes = .error e →
      s.perform (.loadFile files path) = (.error e, s)) ∧
    (s.isLoaded = true →
      s.perform (.step (.hierarchy [])) = (.error .noColumnsSelected, s) ∧
      (∀ name f, Text.trimmed name = "" →
        s.perform (.step (.formula name f)) = (.error .emptyColumnName, s)) ∧
      (∀ format path files e, (Export.file format s.active path files).1 = .error e →
        s.perform (.exportFile format path files) = (.error e, s)) ∧
      ∀ format e, Export.render format s.active = .error e →
        s.perform (.render format) = (.error e, s)) := by
  -- All but the first part are cases of the first: it is left to say what `failure?` is.
  refine ⟨fun c e s' => perform_eq_error_iff, ?_, ?_, ?_, ?_⟩
  · intro h c hc
    have hl : s.isLoaded = false := by rw [isLoaded, h]; rfl
    exact perform_eq_error_iff.mpr ⟨failure?_of_not_isLoaded hl hc, rfl⟩
  · intro files path fault h
    have hf : Load.file s.options files path = .error (.file path fault) := by
      simp only [Load.file, h]
    exact perform_eq_error_iff.mpr ⟨by simp [Command.failure?, hf, errorOf?], rfl⟩
  · intro files path bytes e h hc
    have hf : Load.file s.options files path = .error e := by
      simp only [Load.file, h, hc]; rfl
    exact perform_eq_error_iff.mpr ⟨by simp [Command.failure?, hf, errorOf?], rfl⟩
  · intro hl
    refine ⟨?_, ?_, ?_, ?_⟩
    · exact perform_eq_error_iff.mpr ⟨by simp [Command.failure?, hl, Step.fault?], rfl⟩
    · intro name f hn
      exact perform_eq_error_iff.mpr ⟨by simp [Command.failure?, hl, Step.fault?, hn], rfl⟩
    · intro format path files e he
      exact perform_eq_error_iff.mpr ⟨by simp [Command.failure?, hl, he, errorOf?], rfl⟩
    · intro format e he
      exact perform_eq_error_iff.mpr ⟨by simp [Command.failure?, hl, he, errorOf?], rfl⟩

end Tabular.Session
