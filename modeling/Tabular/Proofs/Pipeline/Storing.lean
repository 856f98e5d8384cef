import Tabular.Pipeline
import Tabular.Proofs.Files.Written
import Tabular.Proofs.Json.Tagged
import Tabular.Proofs.Text.Utf8

set_option autoImplicit false

/-! # Stored pipelines

A pipeline is restored from the text that it is stored as (`Pipeline.restored`): a step is read
as its tag and its operands, and these are decoded as they were encoded, with fields that were left
out and operators that were written as names. An operator has to be that of some name
(`Pipeline.Named`), as those of all pipelines that were read are (`Pipeline.named_of_read`).
-/

namespace Tabular

open Json

/-! ## Formulas -/

theorem TextFormula.ofJson?_members (f : TextFormula) : ofJson? (.object f.members) = some f := by
  obtain ⟨function, column, columns, argument⟩ := f
  have hcolumns := Json.strings?_map_string columns
  by_cases hc : columns = []
  · subst hc
    cases argument <;>
      simp [ofJson?, members, fields?, valuesOf, required, Json.optional, orElse, variant?, string?,
        TextFunction.ofExact?_name]
  · cases argument <;>
      simp [ofJson?, members, fields?, valuesOf, required, Json.optional, orElse, variant?, string?,
        TextFunction.ofExact?_name, hc, hcolumns]

theorem NumericFormula.ofJson?_members (f : NumericFormula) :
    ofJson? (.object f.members) = some f := by
  obtain ⟨function, column, secondColumn, scalar⟩ := f
  cases secondColumn <;> cases scalar <;>
    simp [ofJson?, members, fields?, valuesOf, required, Json.optional, variant?, string?,
      NumericFunction.ofExact?_name]

theorem LogicFormula.ofJson?_members (f : LogicFormula) :
    ofJson? (.object f.members) = some f := by
  obtain ⟨column, operator, check, whenTrue, whenFalse⟩ := f
  simp [ofJson?, members, fields?, valuesOf, required, orElse, variant?, string?,
    LogicOperator.ofExact?_symbol]

namespace Formula

/-- The members that the fields of a formula are stored as, beside its mode. -/
def members : Formula → List (String × Json)
  | .text f => f.members
  | .numeric f => f.members
  | .logic f => f.members

theorem toJson_eq (f : Formula) :
    f.toJson = .object (("mode", .string f.mode) :: f.members) := by
  cases f <;> rfl

theorem ne_mode_of_mem_members (f : Formula) : ∀ m ∈ f.members, m.1 ≠ "mode" := by
  cases f with
  | text f =>
      obtain ⟨function, column, columns, argument⟩ := f
      by_cases hc : columns = [] <;> cases argument <;>
        simp [members, TextFormula.members, hc]
  | numeric f =>
      obtain ⟨function, column, secondColumn, scalar⟩ := f
      cases secondColumn <;> cases scalar <;> simp [members, NumericFormula.members]
  | logic f => simp [members, LogicFormula.members]

theorem fits_members (depth : Nat) (f : Formula) : ∀ m ∈ f.members, Fits (depth + 1) m.2 := by
  have hstring (s : String) : Fits (depth + 1) (.string s) := .string _ s
  cases f with
  | text f =>
      obtain ⟨function, column, columns, argument⟩ := f
      by_cases hc : columns = [] <;> cases argument <;>
        simp [members, TextFormula.members, hc, hstring, fits_strings depth columns]
  | numeric f =>
      obtain ⟨function, column, secondColumn, scalar⟩ := f
      cases secondColumn <;> cases scalar <;> simp [members, NumericFormula.members, hstring]
  | logic f => simp [members, LogicFormula.members, hstring]

theorem fits_toJson (depth : Nat) (f : Formula) : Fits (depth + 2) f.toJson := by
  rw [toJson_eq]
  refine .object fun m hm => ?_
  rcases List.mem_cons.mp hm with rfl | hm
  · exact .string _ _
  · exact f.fits_members depth m hm

/-- A formula is decoded from the value that it is stored as. -/
theorem ofNested?_toJson (f : Formula) : ofNested? f.toJson = some f := by
  have hmode : ofMode? f.mode (.object f.members) = some f := by
    cases f with
    | text f => simp [ofMode?, mode, members, TextFormula.ofJson?_members]
    | numeric f => simp [ofMode?, mode, members, NumericFormula.ofJson?_members]
    | logic f => simp [ofMode?, mode, members, LogicFormula.ofJson?_members]
  rw [toJson_eq, ofNested?, tagged?_cons f.ne_mode_of_mem_members]
  exact hmode

end Formula

/-! ## Operators of filters -/

namespace FilterOperator

theorem eq_of_ofName_eq_unrecognized {name other : String}
    (h : ofName name = .unrecognized other) : other = name := by
  unfold ofName at h
  split at h <;> cases h
  rfl

/-- The name of an operator that has one is read as this operator. -/
theorem ofName_name_ofName (name : String) : ofName (ofName name).name = ofName name := by
  rcases h : ofName name with _ | _ | _ | _ | other
  · decide +kernel
  · decide +kernel
  · decide +kernel
  · decide +kernel
  · obtain rfl := eq_of_ofName_eq_unrecognized h
    exact h

end FilterOperator

/-! ## Steps -/

namespace Step

/-- The operator of a filter is that of some name. -/
def Named : Step → Prop
  | .filter _ op _ => ∃ name, op = .ofName name
  | _ => True

theorem ofTag?_members {step : Step} (h : step.Named) :
    ofTag? step.tag (.object step.members) = some step := by
  cases step with
  | filter column op value =>
      obtain ⟨name, hop⟩ := h
      have hname : FilterOperator.ofName op.name = op := by
        rw [hop, FilterOperator.ofName_name_ofName]
      simp [ofTag?, tag, members, fields?, valuesOf, required, orElse, string?, hname]
  | hierarchy columns =>
      simp [ofTag?, tag, members, fields?, valuesOf, required, Json.strings?_map_string]
  | formula name f =>
      simp [ofTag?, tag, members, fields?, valuesOf, required, string?, f.ofNested?_toJson]
  | aggregate group value function =>
      simp [ofTag?, tag, members, fields?, valuesOf, required, string?, variant?,
        function.ofExact?_name]
  | view v =>
      simp [ofTag?, tag, members, fields?, valuesOf, required, variant?, v.ofExact?_name]
  | sort column => simp [ofTag?, tag, members, fields?, valuesOf, required, string?]
  | unique column => simp [ofTag?, tag, members, fields?, valuesOf, required, string?]
  | dedupe => rfl
  | transpose => rfl
  | reset => rfl

theorem ne_op_of_mem_members (step : Step) : ∀ m ∈ step.members, m.1 ≠ "op" := by
  cases step <;> simp [members]

theorem fits_members (depth : Nat) (step : Step) : ∀ m ∈ step.members, Fits (depth + 2) m.2 := by
  have hstring (s : String) : Fits (depth + 2) (.string s) := .string _ s
  cases step with
  | hierarchy columns => simpa [members] using fits_strings (depth + 1) columns
  | formula name f => simpa [members, hstring] using f.fits_toJson depth
  | _ => simp [members, hstring]

/-- A step is read from its text. -/
theorem reads_read {step : Step} (h : step.Named) (w : Spacing) (level depth : Nat) :
    Reads (Step.read (depth + 3)) (w.text level step.toJson) step := by
  have hknown : tags.contains step.tag = true := by
    simpa using step.tag_mem_tags
  have htagged : Reads (readTagged "op" tags.contains (depth + 3)) (w.text level step.toJson)
      (step.tag, .object step.members) :=
    reads_tagged hknown step.ne_op_of_mem_members (step.fits_members depth)
  refine ⟨htagged.starts, fun gap hg rest hr => ?_⟩
  simp only [Step.read, htagged.reads gap hg rest hr, ofTag?_members h, bind, Except.bind]

/-- A filter that was decoded has the operator of a name. -/
theorem exists_ofName_of_ofTag? {tag : String} {content : Json} {column value : String}
    {op : FilterOperator} (h : ofTag? tag content = some (.filter column op value)) :
    ∃ name, op = .ofName name := by
  unfold ofTag? at h
  split at h
  case h_1 =>
      obtain ⟨fields, -, h⟩ := Option.bind_eq_some_iff.mp h
      split at h
      · simp only [Option.bind_eq_bind, Option.bind_eq_some_iff, Option.some.injEq,
          Step.filter.injEq] at h
        obtain ⟨c, -, name, -, v, -, -, hop, -⟩ := h
        exact ⟨name, hop.symm⟩
      · cases h
  case h_3 | h_8 | h_9 =>
      unfold bare? at h
      split at h <;> cases h
  case h_11 => cases h
  all_goals
    -- The other tags give other steps.
    obtain ⟨fields, -, h⟩ := Option.bind_eq_some_iff.mp h
    split at h <;> simp [Option.bind_eq_some_iff] at h

theorem named_of_ofTag? {tag : String} {content : Json} {step : Step}
    (h : ofTag? tag content = some step) : step.Named := by
  cases step with
  | filter column op value => exact exists_ofName_of_ofTag? h
  | _ => trivial

/-- A step that was read has the operator of a name, if it is a filter. -/
theorem named_of_read {depth : Nat} {s rest : Input} {step : Step}
    (h : Step.read depth s = .ok (step, rest)) : step.Named := by
  obtain ⟨⟨⟨tag, content⟩, after⟩, -, h⟩ := exists_of_bind_eq_ok h
  simp only at h
  split at h
  · rename_i found hfound
    cases h
    exact named_of_ofTag? hfound
  · cases h

end Step

/-! ## Pipelines -/

namespace Pipeline

/-- The operators of all filters are those of some names. -/
def Named (p : Pipeline) : Prop := ∀ step ∈ p.steps, step.Named

theorem reads_readSteps {steps : List Step} (h : ∀ step ∈ steps, step.Named) (w : Spacing)
    (level depth : Nat) :
    Reads (readSteps (depth + 4)) (w.text level (.array (steps.map Step.toJson))) steps := by
  refine reads_array ?_
  rw [List.forall₂_map_left_iff, List.forall₂_same]
  intro step hstep
  exact Step.reads_read (h step hstep) w (level + 1) depth

theorem read_object {depth : Nat} {s tail rest : Input} (hs : skipBlanks s = some '\x7b' :: tail)
    {found : Option (List Step)}
    (h : readMembers readString (readMember depth) tail true none tail = .ok (found, rest)) :
    Pipeline.read (depth + 1) s = .ok (⟨found.getD []⟩, rest) := by
  have hobject : readObject (depth + 1) readMember none (skipBlanks s) = .ok (found, rest) := by
    simp only [readObject, hs, skipBlanks_cons (c := '\x7b') rfl, h]
  unfold Pipeline.read
  split
  · contradiction
  · rename_i hb
    rw [hs] at hb
    cases hb
  · simp only [hobject, bind, Except.bind]

/-- A pipeline is read from its text. -/
theorem reads_read {p : Pipeline} (h : p.Named) (w : Spacing) (level depth : Nat) :
    Reads (Pipeline.read (depth + 5)) (w.text level p.toJson) p := by
  have hsteps : Gathers (readMember (depth + 4)) w.colonGap
      ([("steps", Json.array (p.steps.map Step.toJson))].map fun m =>
        (m.1, w.text (level + 1) m.2)) none (some p.steps) := by
    refine .cons (fun rest hr => ?_) (.nil _)
    have hread := (reads_readSteps h w (level + 1) depth).reads _ w.blank_colonGap rest hr
    rw [readMember, if_pos rfl, readColon_behindKey]
    simp only [hread, bind, Except.bind]
  rw [toJson, Spacing.text_object]
  refine reads_of_bracket rfl (by decide) fun s rest hs => ?_
  exact read_object hs (readMembers_texts hsteps rest)

theorem ofText_written {p : Pipeline} (h : p.Named) (w : Spacing) :
    ofText ((w.text 0 p.toJson).map some) = .ok p :=
  (reads_read h w 0 122).whole_eq

theorem named_of_readSteps {depth : Nat} {s rest : Input} {steps : List Step}
    (h : readSteps depth s = .ok (steps, rest)) : ∀ step ∈ steps, step.Named := by
  intro step hstep
  obtain ⟨depth, s, rest, hread⟩ := exists_of_readArray h step hstep
  exact Step.named_of_read hread

theorem named_of_readMember {depth : Nat} {name : String} {found next : Option (List Step)}
    {s rest : Input} (hf : ∀ steps ∈ found, ∀ step ∈ steps, step.Named)
    (h : readMember depth name found s = .ok (next, rest)) :
    ∀ steps ∈ next, ∀ step ∈ steps, step.Named := by
  unfold readMember at h
  split at h
  · split at h
    · cases h
    · obtain ⟨after, -, h⟩ := exists_of_bind_eq_ok h
      obtain ⟨⟨steps, last⟩, hs, h⟩ := exists_of_bind_eq_ok h
      cases h
      intro steps' hsteps
      cases hsteps
      exact named_of_readSteps hs
  · -- Another member leaves what has been found.
    obtain ⟨after, -, h⟩ := exists_of_bind_eq_ok h
    obtain ⟨⟨u, last⟩, -, h⟩ := exists_of_bind_eq_ok h
    cases h
    exact hf

theorem named_of_readFields {depth : Nat} {s rest : Input} {steps : List Step}
    (h : readFields depth s = .ok (steps, rest)) : ∀ step ∈ steps, step.Named := by
  unfold readFields at h
  split at h
  · cases h
  · cases h
    simp
  · obtain ⟨⟨steps', last⟩, hs, h⟩ := exists_of_bind_eq_ok h
    simp only at h
    split at h
    · cases h
    · cases h
      exact named_of_readSteps hs
    · cases h

/-- The operators of the filters of a pipeline that was read are those of some names. -/
theorem named_of_read {depth : Nat} {s rest : Input} {p : Pipeline}
    (h : Pipeline.read depth s = .ok (p, rest)) : p.Named := by
  unfold Pipeline.read at h
  split at h
  · cases h
  · obtain ⟨⟨steps, last⟩, hf, h⟩ := exists_of_bind_eq_ok h
    cases h
    exact named_of_readFields hf
  · obtain ⟨⟨found, last⟩, ho, h⟩ := exists_of_bind_eq_ok h
    cases h
    -- The steps that have been found so far are named, member after member.
    have hfound : ∀ steps ∈ found, ∀ step ∈ steps, step.Named :=
      readObject_preserves (P := fun found : Option (List Step) =>
        ∀ steps ∈ found, ∀ step ∈ steps, step.Named) named_of_readMember (by simp) ho
    cases found with
    | none => simp [Named]
    | some steps => exact hfound steps rfl

/-! ## Files -/

/-- A saved pipeline is what its file holds. -/
theorem read_of_save {p : Pipeline} {path : String} {files saved : Files}
    (h : p.save path files = .ok saved) :
    saved.read path = .ok p.toJson.prettyText.toUTF8 := by
  unfold save at h
  rcases hm : files.makeParents path with fault | made
  · rw [hm] at h
    cases h
  · rw [hm] at h
    rcases hw : made.write path p.toJson.prettyText.toUTF8 with fault | written
    · simp only [Except.bind, hw] at h
      cases h
    · simp only [Except.bind, hw] at h
      cases h
      exact Files.read_of_write hw

theorem ofText_prettyText {p : Pipeline} (h : p.Named) :
    ofText (Text.symbolsOf p.toJson.prettyText) = .ok p := by
  rw [Text.symbolsOf, prettyText, String.toList_ofList]
  exact ofText_written h .lines

theorem ofText_compactText {p : Pipeline} (h : p.Named) :
    ofText (Text.symbolsOf p.toJson.compactText) = .ok p := by
  rw [Text.symbolsOf, compactText, String.toList_ofList]
  exact ofText_written h .compact

/-- A saved pipeline is loaded. -/
theorem load_of_save {p : Pipeline} (hp : p.Named) {path : String} {files saved : Files}
    (h : p.save path files = .ok saved) : load saved path = .ok p := by
  simp only [load, read_of_save h, Text.symbols_toUTF8, ofText_prettyText hp]

/-- A pipeline is restored from either text that it is stored as, when the operators of its filters
are those of some names. So are those of a pipeline that was read, and it is loaded again from
wherever it is saved, and saved again with the same text. -/
theorem restored :
    (∀ p : Pipeline, p.Named → ofText (Text.symbolsOf p.toJson.prettyText) = .ok p ∧
      ofText (Text.symbolsOf p.toJson.compactText) = .ok p) ∧
    ∀ (s : Input) (p : Pipeline), ofText s = .ok p →
      ∀ (path : String) (files saved : Files), p.save path files = .ok saved →
        ∃ text : String, saved.read path = .ok text.toUTF8 ∧ load saved path = .ok p ∧
          ∀ (q : Pipeline), load saved path = .ok q →
            ∀ (path' : String) (files' saved' : Files), q.save path' files' = .ok saved' →
              saved'.read path' = .ok text.toUTF8 := by
  refine ⟨fun p hp => ⟨ofText_prettyText hp, ofText_compactText hp⟩, ?_⟩
  -- What was read is named, so it is loaded from where it was saved and nothing else is.
  intro s p hread path files saved hsave
  obtain ⟨rest, hrest⟩ := exists_of_whole hread
  have hload := load_of_save (named_of_read hrest) hsave
  refine ⟨p.toJson.prettyText, read_of_save hsave, hload, ?_⟩
  intro q hq path' files' saved' hagain
  obtain rfl : p = q := Except.ok.inj (hload.symm.trans hq)
  exact read_of_save hagain

/-- A pipeline can be saved in an empty working directory. -/
theorem save_p (p : Pipeline) :
    p.save "p" .empty = .ok ⟨[("p", .file p.toJson.prettyText.toUTF8)]⟩ := by
  rw [save, Files.makeParents_p]
  simp only [Except.bind, Files.write, Files.place?_p]
  rfl

/-- Operators with and without a name of their own, empty and missing fields, and formulas of all
modes. -/
theorem restored_of_mixed_steps :
    let p : Pipeline := ⟨[
      .filter "say \"é\"" (.ofName " Starts ") "\u0001\n", .filter "b" (.ofName "Almost") "",
      .hierarchy [], .hierarchy ["a", "b"],
      .formula "x" (.text ⟨.concat, "", ["a", "b"], none⟩),
      .formula "y" (.text ⟨.left, "a", [], some "2"⟩),
      .formula "z" (.numeric ⟨.add, "a", none, some "2"⟩),
      .formula "w" (.logic ⟨"a", .notEqual, "", "yes", "no"⟩), .view .analysis, .reset]⟩
    p.Named ∧ ofText (Text.symbolsOf p.toJson.prettyText) = .ok p ∧
      ofText (Text.symbolsOf p.toJson.compactText) = .ok p ∧
      ∃ saved, p.save "p" .empty = .ok saved ∧ load saved "p" = .ok p := by
  intro p
  have hp : p.Named := by
    simp only [p, Named, Step.Named, List.forall_mem_cons, List.not_mem_nil]
    exact ⟨⟨_, rfl⟩, ⟨_, rfl⟩, trivial, trivial, trivial, trivial, trivial, trivial, trivial,
      trivial, nofun⟩
  obtain ⟨hpretty, hcompact⟩ := restored.1 p hp
  obtain ⟨text, -, hload, -⟩ := restored.2 _ p hcompact "p" .empty _ p.save_p
  exact ⟨hp, hpretty, hcompact, _, p.save_p, hload⟩

end Pipeline

end Tabular
