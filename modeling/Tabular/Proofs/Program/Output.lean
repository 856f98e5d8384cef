import Tabular.Proofs.Export.Failing
import Tabular.Proofs.Load.Unreadable
import Tabular.Proofs.Program.Work

set_option autoImplicit false

/-! # The output of a run that fails

A run changes no file before it saves (`meets_run`), so that what is left of the file that it was
to write is what the export leaves of it. That is everything, unless the export fails because no
workbook can hold the table: then the file is there without its content
(`failed_export_leaves_file`).
-/

namespace Tabular

namespace Load

theorem ne_beyondWorkbook_of_file {o : Options} {files : Files} {path : String} {e : Error}
    (h : file o files path = .error e) : e ≠ .beyondWorkbook := by
  rcases unreadable_of_file h with ⟨fault, -, rfl⟩ | hu
  · simp
  · cases hu <;> simp

end Load

namespace Pipeline

theorem ne_beyondWorkbook_of_load {files : Files} {path : String} {e : Error}
    (h : load files path = .error e) : e ≠ .beyondWorkbook := by
  unfold load at h
  split at h
  · cases h
    simp
  · cases h
    simp
  · split at h
    · cases h
      simp
    · cases h

/-- A run that fails names the step. -/
theorem exists_step_of_runFrom {number : Nat} {steps : List Step} {s : Session} {e : Error}
    (h : (runFrom number steps s).1 = .error e) : ∃ n op cause, e = .step n op cause := by
  induction steps generalizing number s with
  | nil => cases h
  | cons step rest ih =>
      unfold runFrom at h
      split at h
      · rename_i cause _ _
        exact ⟨number, step.tag, cause, (Except.error.inj h).symm⟩
      · split at h
        · rename_i hr
          obtain rfl := Except.error.inj h
          exact ih (congrArg Prod.fst hr)
        · cases h

end Pipeline

namespace Session

theorem file_of_loadFile {s s' : Session} {files : Files} {path : String} {e : Error}
    (h : s.loadFile files path = (.error e, s')) : Load.file s.options files path = .error e := by
  unfold loadFile at h
  split at h
  · rename_i hf
    obtain ⟨he, -⟩ := Prod.mk.inj h
    rw [hf, Except.error.inj he]
  · cases h

end Session

namespace Program

section

variable {path : String} {before : Files} {R : Failure → Files → Prop}
  (hr : ∀ failure, failure ≠ .error .beyondWorkbook → R failure before)
include hr

/-- Replaying a pipeline changes no file. -/
theorem meets_replay (s : Session) :
    Work.Meets (replay s path) before (fun _ after => after = before) R := by
  refine Work.meets_bind (meets_files (Work.meets_bind (meets_demand ?_ ?_)))
  · intro p _
    refine Work.meets_bind (meets_print ?_)
    rcases hp : p.run s with ⟨result, s'⟩
    refine Work.meets_bind (meets_demand ?_ ?_)
    · rintro outcomes rfl
      exact Work.meets_bind (meets_print (Work.meets_pure rfl))
    · rintro e rfl
      obtain ⟨n, op, cause, rfl⟩ := Pipeline.exists_step_of_runFrom (congrArg Prod.fst hp)
      exact hr _ (by simp)
  · intro e he
    exact hr _ (by simpa using Pipeline.ne_beyondWorkbook_of_load he)

/-- Before it saves, a run changes no file and does not fail as a workbook does. -/
theorem meets_run {file : String} {pipeline : Option String} {format : Option ExportFormat}
    {rows : Nat} {verbose : Bool}
    (hx : ∀ (s : Session) (format : ExportFormat) (e : Error) (after : Files),
      s.exportFile format path before = (.error e, after) → R (.error e) after) :
    Work.Meets (run file pipeline (some path) format rows verbose) before (fun _ _ => True) R := by
  have hsave : ∀ s : Session, Work.Meets (do print (Report.result s rows); save s path format)
      before (fun _ _ => True) R :=
    fun s => Work.meets_bind (meets_print (meets_save (fun _ _ _ _ => trivial) (hx s)))
  refine Work.meets_bind (meets_demandFile ?_ (hr _ (by simp)))
  refine Work.meets_bind (meets_files ?_)
  -- A load that fails ends the run before anything is written.
  rcases hl : ({} : Session).loadFile before file with ⟨result, s⟩
  refine Work.meets_bind (meets_demand ?_ ?_)
  · rintro outcome rfl
    refine Work.meets_bind (meets_print ?_)
    cases pipeline with
    | none => exact hsave s
    | some pipelinePath =>
        refine Work.meets_bind ((meets_replay hr s).mono ?_ fun _ _ h => h)
        rintro s' after rfl
        exact hsave s'
  · rintro e rfl
    exact hr _ (by simpa using Load.ne_beyondWorkbook_of_file (Session.file_of_loadFile hl))

end

/-! ## What is left of the output -/

/-- A failed export leaves a file that was there as it was, unless a workbook was to be written
that cannot hold the table: then nothing is left of its content. So it is for an export of a table,
for one of a session and for a run, whatever it fails for. -/
theorem failed_export_leaves_file {before : Files} {path : String} {content : ByteArray}
    (hc : before.read path = .ok content) :
    (∀ format t e after, Export.file format t path before = (.error e, after) →
      after.read path = .ok (if e = .beyondWorkbook then .empty else content) ∧
        (e = .beyondWorkbook → format = .xlsx ∧ (Export.sheet t).fits = false)) ∧
    (∀ (s : Session) format e after, s.exportFile format path before = (.error e, after) →
      after.read path = .ok (if e = .beyondWorkbook then .empty else content) ∧
        (e = .beyondWorkbook → format = .xlsx ∧ (Export.sheet s.active).fits = false)) ∧
    ∀ (i : CommandLine.Invocation) file pipeline format rows,
      i.command = .run file pipeline (some path) format rows →
      ∀ loadedAt lines failure after,
        perform i loadedAt before = (lines, some failure, after) →
        after.read path = .ok (if failure = .error .beyondWorkbook then .empty else content) := by
  have hsession : ∀ (s : Session) format e after,
      s.exportFile format path before = (.error e, after) →
      after.read path = .ok (if e = .beyondWorkbook then .empty else content) ∧
        (e = .beyondWorkbook → format = .xlsx ∧ (Export.sheet s.active).fits = false) := by
    intro s format e after h
    unfold Session.exportFile at h
    split at h
    · exact Export.read_of_file_eq_error h hc
    · obtain ⟨rfl, rfl⟩ : Error.notLoaded = e ∧ before = after := by simpa using h
      exact ⟨hc, by simp⟩
  refine ⟨fun format t e after h => Export.read_of_file_eq_error h hc, hsession, ?_⟩
  intro i file pipeline format rows hi loadedAt lines failure after h
  have hmeets : Work.Meets (work i loadedAt) before (fun _ _ => True) fun failure after =>
      after.read path = .ok (if failure = .error .beyondWorkbook then .empty else content) := by
    rw [work, hi]
    -- Only the export at the end of a run fails as a workbook does; before it no file is changed.
    refine meets_run (fun failure hne => ?_) fun s format e after hx => ?_
    · rw [if_neg hne]
      exact hc
    · simpa using (hsession s format e after hx).1
  exact of_perform_eq_failure hmeets h

/-- The steps of a run leave no record to be written. -/
theorem failed_run_leaves_file_of_no_matches :
    let steps := "\x7b\"steps\":[\x7b\"op\":\"filter\",\"column\":\"a\",\"operator\":\"equals\",\"value\":\"2\"\x7d]\x7d"
    let before : Files := ⟨[("in", .file "a\n1\n".toUTF8), ("steps", .file steps.toUTF8),
      ("out", .file "old".toUTF8)]⟩
    let i : CommandLine.Invocation := ⟨.run "in" (some "steps") (some "out") none 5, false⟩
    before.read "out" = .ok "old".toUTF8 ∧
      (perform i "" before).2.1 = some (.error .nothingToExport) ∧
      (perform i "" before).2.2.read "out" = .ok "old".toUTF8 := by
  intro steps before i
  have hread : before.read "out" = .ok "old".toUTF8 := by decide +kernel
  have hfail : (perform i "" before).2.1 = some (.error .nothingToExport) := by decide +kernel
  have hleft := (failed_export_leaves_file hread).2.2 i "in" (some "steps") none 5 rfl ""
    (perform i "" before).1 (.error .nothingToExport) (perform i "" before).2.2
    (Prod.ext rfl (Prod.ext hfail rfl))
  exact ⟨hread, hfail, by simpa using hleft⟩

/-- A workbook that cannot hold a text leaves an empty file. -/
theorem file_of_long_text {text : String} (hlength : maxSheetText < text.length)
    {before : Files} {content : ByteArray} (hread : before.read "p" = .ok content) :
    ∃ after, Export.file .xlsx [Record.ofList [("a", .text text)]] "p" before =
        (.error .beyondWorkbook, after) ∧ after.read "p" = .ok .empty := by
  have hfits : (Export.sheet [Record.ofList [("a", .text text)]]).fits = false :=
    Export.fits_eq_false_of_long_text (List.mem_singleton.mpr rfl) (List.mem_singleton.mpr rfl) rfl
      hlength
  have hrender : Export.render .xlsx [Record.ofList [("a", .text text)]] =
      .error .beyondWorkbook :=
    (Export.render_eq_error_iff (List.cons_ne_nil _ _)).mpr ⟨rfl, hfits, rfl⟩
  obtain ⟨emptied, he⟩ := Files.exists_write_of_read hread .empty
  refine ⟨emptied, ?_, Files.read_of_write he⟩
  rw [Export.file, if_neg (List.cons_ne_nil _ _), Files.makeParents_p]
  dsimp only
  rw [he]
  dsimp only
  rw [hrender]

/-- A text of one character more than a cell holds costs a file its content. -/
theorem long_text_empties_file :
    let text := String.ofList (List.replicate 32768 'x')
    let before : Files := ⟨[("p", .file "old".toUTF8)]⟩
    before.read "p" = .ok "old".toUTF8 ∧
      ∃ after, Export.file .xlsx [Record.ofList [("a", .text text)]] "p" before =
          (.error .beyondWorkbook, after) ∧
        after.read "p" = .ok .empty ∧ after.read "p" ≠ before.read "p" := by
  intro text before
  have hread : before.read "p" = .ok "old".toUTF8 :=
    Files.read_eq_ok_iff.mpr ⟨["p"], Files.place?_p _, rfl⟩
  have hlength : text.length = 32768 := by
    rw [String.length_ofList, List.length_replicate]
  obtain ⟨after, hfile, hempty⟩ := file_of_long_text (by rw [hlength]; decide) hread
  refine ⟨hread, after, hfile, hempty, ?_⟩
  rw [hempty, hread]
  intro h
  have hsize := congrArg ByteArray.size (Except.ok.inj h)
  revert hsize
  decide +kernel

end Program

end Tabular
