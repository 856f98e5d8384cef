import Tabular.Program

set_option autoImplicit false

/-! # What work does to files

`Work.Meets` says what becomes of the files when a command works on them, both when it goes on
and when it fails, whatever it has printed. There is a rule for each thing that a command does.
-/

namespace Tabular.Program

/-- With these files, whatever has been printed, the work goes on with `Q` of its result and the
files, or fails with `R` of the failure and the files. -/
def Work.Meets {α : Type} (w : Work α) (before : Files) (Q : α → Files → Prop)
    (R : Failure → Files → Prop) : Prop :=
  ∀ lines, match w.run ⟨lines, before⟩ with
    | (.ok a, p) => Q a p.files
    | (.error failure, p) => R failure p.files

namespace Work

variable {α β : Type} {before : Files} {R : Failure → Files → Prop}

/-! ## Steps in a row -/

theorem run_bind (x : Work α) (f : α → Work β) (p : Progress) :
    (x >>= f).run p = match x.run p with
      | (.ok a, p) => (f a).run p
      | (.error failure, p) => (.error failure, p) := by
  rw [ExceptT.run_bind]
  change StateT.run (x.run >>= _) p = match StateT.run x.run p with
    | (.ok a, p) => (f a).run p
    | (.error failure, p) => (.error failure, p)
  rw [StateT.run_bind]
  rcases StateT.run x.run p with ⟨failure | a, p'⟩
  · rfl
  · rfl

theorem meets_bind {x : Work α} {f : α → Work β} {Q : β → Files → Prop}
    (h : Meets x before (fun a between => Meets (f a) between Q R) R) :
    Meets (x >>= f) before Q R := by
  intro lines
  have hx := h lines
  rw [run_bind]
  rcases hrun : x.run ⟨lines, before⟩ with ⟨_ | a, p⟩
  · rw [hrun] at hx
    exact hx
  · rw [hrun] at hx
    exact hx p.lines

theorem Meets.mono {w : Work α} {Q Q' : α → Files → Prop} {R' : Failure → Files → Prop}
    (h : Meets w before Q R) (hq : ∀ a after, Q a after → Q' a after)
    (hr : ∀ failure after, R failure after → R' failure after) : Meets w before Q' R' := by
  intro lines
  have hw := h lines
  split at hw
  · exact hq _ _ hw
  · exact hr _ _ hw

theorem meets_pure {a : α} {Q : α → Files → Prop} (h : Q a before) :
    Meets (pure a) before Q R :=
  fun _ => h

theorem meets_throw {failure : Failure} {Q : α → Files → Prop} (h : R failure before) :
    Meets (throw failure) before Q R :=
  fun _ => h

end Work

/-! ## Single steps -/

section

variable {before : Files} {R : Failure → Files → Prop}

theorem meets_print {lines : List Report.Line} {Q : Unit → Files → Prop} (h : Q () before) :
    Work.Meets (print lines) before Q R :=
  fun _ => h

theorem meets_files {Q : Files → Files → Prop} (h : Q before before) :
    Work.Meets files before Q R :=
  fun _ => h

theorem meets_demand {α : Type} {result : Except Error α} {Q : α → Files → Prop}
    (hq : ∀ a, result = .ok a → Q a before) (hr : ∀ e, result = .error e → R (.error e) before) :
    Work.Meets (demand result) before Q R := by
  cases result with
  | ok a => exact Work.meets_pure (hq a rfl)
  | error e => exact Work.meets_throw (hr e rfl)

theorem meets_demandFile {path : String} {failure : Failure} {Q : Unit → Files → Prop}
    (hq : Q () before) (hr : R failure before) :
    Work.Meets (demandFile path failure) before Q R := by
  refine Work.meets_bind (meets_files ?_)
  cases before.has path with
  | true => exact Work.meets_pure hq
  | false => exact Work.meets_throw hr

theorem meets_replaceFiles {after : Files} {Q : Unit → Files → Prop} (h : Q () after) :
    Work.Meets (modify fun p => { p with files := after }) before Q R :=
  fun _ => h

/-- A table is saved as it is exported. -/
theorem meets_save {s : Session} {path : String} {format : Option ExportFormat}
    {Q : Unit → Files → Prop}
    (hq : ∀ format n after, s.exportFile format path before = (.ok n, after) → Q () after)
    (hr : ∀ format e after, s.exportFile format path before = (.error e, after) →
      R (.error e) after) :
    Work.Meets (save s path format) before Q R := by
  refine Work.meets_bind (meets_files ?_)
  rcases hx : s.exportFile ((format.or (ExportFormat.ofPath? path)).getD .csv) path before
    with ⟨result, after⟩
  refine Work.meets_bind (meets_replaceFiles (Work.meets_bind (meets_demand ?_ ?_)))
  · rintro n rfl
    exact meets_print (hq _ n after hx)
  · rintro e rfl
    exact hr _ e after hx

/-- What holds of the failures of an invocation's work holds of what can be seen of them. -/
theorem of_perform_eq_failure {i : CommandLine.Invocation} {loadedAt : String}
    {Q : Unit → Files → Prop} (h : Work.Meets (work i loadedAt) before Q R)
    {lines : List Report.Line} {failure : Failure} {after : Files}
    (hp : perform i loadedAt before = (lines, some failure, after)) : R failure after := by
  have hw := h []
  unfold perform at hp
  split at hp
  · cases hp
  · rename_i failure' p hrun
    rw [hrun] at hw
    cases hp
    exact hw

end

end Tabular.Program
