import Tabular.Delimited
import Tabular.Proofs.Text.Utf8
import Mathlib.Tactic.Common

set_option autoImplicit false

/-! # Written records are read back

Reading what was written gives the fields that were written (`records_fileText`): the reader
passes over a plain field and over a quoted one alike (`steps_fieldText`), a separator ends a
field and a line feed a record (`steps_line`), and no record is written as an empty line, which
the reader would pass over (`steps_recordText`).
-/

namespace Tabular.Delimited

open Text

variable {sep : Char}

/-- The dialect of written files. -/
def written (sep : UInt8) : Dialect := ⟨sep, '"'⟩

/-- The character is a single byte and has no other meaning in a written file than to separate
fields. -/
structure Separates (sep : Char) : Prop where
  ascii : sep.toNat < 128
  ne_quote : sep ≠ '"'
  ne_lineFeed : sep ≠ '\n'
  ne_return : sep ≠ '\r'

theorem separates_comma : Separates ',' := by constructor <;> decide

theorem separates_tab : Separates '\t' := by constructor <;> decide

/-- The byte of a separator is not that of another ASCII character. -/
theorem Separates.toUInt8_ne (hsep : Separates sep) {m : Char} (hm : m.toNat < 128)
    (h : sep ≠ m) : (sep : UInt8) ≠ m :=
  fun he => h ((toUInt8_inj hsep.ascii hm).mp he)

theorem Separates.quote_ne (hsep : Separates sep) : (sep : UInt8) ≠ '"' :=
  hsep.toUInt8_ne (by decide) hsep.ne_quote

theorem Separates.isRecordEnd_eq (hsep : Separates sep) : isRecordEnd sep = false := by
  simp [isRecordEnd, hsep.toUInt8_ne (by decide) hsep.ne_lineFeed,
    hsep.toUInt8_ne (by decide) hsep.ne_return]

/-- The character stands in a field without quotes. -/
def Ordinary (sep c : Char) : Prop := c ≠ sep ∧ c ≠ '"' ∧ c ≠ '\r' ∧ c ≠ '\n'

theorem needsQuotes_eq_false_iff {s : List Char} :
    needsQuotes sep s = false ↔ ∀ c ∈ s, Ordinary sep c := by
  simp [needsQuotes, Ordinary, and_assoc]

/-- The byte stands for itself outside quotes. -/
structure Unmarked (d : Dialect) (x : UInt8) : Prop where
  ne_delimiter : x ≠ d.delimiter
  ne_quote : x ≠ d.quote
  isRecordEnd_eq : isRecordEnd x = false

theorem ne_of_mem_utf8EncodeChar {c m : Char} (hm : m.toNat < 128) (hc : c ≠ m) {x : UInt8}
    (hx : x ∈ String.utf8EncodeChar c) : x ≠ m := by
  rintro rfl
  exact hc ((toUInt8_mem_utf8EncodeChar hm).mp hx)

/-- No byte of an ordinary character is a mark. -/
theorem Ordinary.unmarked (hsep : Separates sep) {c : Char} (hc : Ordinary sep c) {x : UInt8}
    (hx : x ∈ String.utf8EncodeChar c) : Unmarked (written sep) x := by
  obtain ⟨hd, hq, hr, hn⟩ := hc
  refine ⟨ne_of_mem_utf8EncodeChar hsep.ascii hd hx, ne_of_mem_utf8EncodeChar (by decide) hq hx, ?_⟩
  simp [isRecordEnd, ne_of_mem_utf8EncodeChar (by decide) hn hx,
    ne_of_mem_utf8EncodeChar (by decide) hr hx]

theorem unmarked_of_mem_utf8 (hsep : Separates sep) {s : List Char}
    (hs : ∀ c ∈ s, Ordinary sep c) {x : UInt8} (hx : x ∈ utf8 s) : Unmarked (written sep) x := by
  obtain ⟨c, hc, hx⟩ := List.mem_flatMap.mp hx
  exact (hs c hc).unmarked hsep hx

def escaped (c : Char) : List Char := if c = '"' then ['"', '"'] else [c]

theorem quote_eq (s : List Char) : quote s = '"' :: (s.flatMap escaped ++ ['"']) := rfl

/-- A field as the reader gives it. -/
def asRead (s : List Char) : Field := utf8 s

def lineText (sep : Char) (fields : List (List Char)) : List Char :=
  [sep].intercalate (fields.map (fieldText sep))

@[simp] theorem lineText_singleton (s : List Char) : lineText sep [s] = fieldText sep s :=
  List.intercalate_singleton

theorem lineText_cons_cons (s t : List Char) (fields : List (List Char)) :
    lineText sep (s :: t :: fields) = fieldText sep s ++ sep :: lineText sep (t :: fields) := by
  rw [lineText, List.map_cons, List.map_cons, List.intercalate_cons_cons, List.append_assoc]
  rfl

theorem recordText_eq (fields : List (List Char)) :
    recordText sep fields =
      (if lineText sep fields = [] then ['"', '"'] else lineText sep fields) ++ ['\n'] := rfl

namespace Reading

variable (field : Field) (row : List Field) (rows : List (List Field))

theorem steps_cons (d : Dialect) (r : Reading) (x : UInt8) (s : List UInt8) :
    r.steps d (x :: s) = (r.step d x).steps d s := rfl

/-! ## Fields -/

theorem stepPlain_unmarked {d : Dialect} {x : UInt8} (hx : Unmarked d x) (r : Reading) :
    r.stepPlain d x = r.push x .plain := by
  rw [stepPlain, if_neg hx.ne_delimiter, hx.isRecordEnd_eq]
  rfl

theorem stepField_unmarked {d : Dialect} {x : UInt8} (hx : Unmarked d x) (r : Reading) :
    r.stepField d x = r.push x .plain := by
  rw [stepField, if_neg hx.ne_quote, stepPlain_unmarked hx]

/-- Outside quotes, bytes without a meaning stand for themselves. -/
theorem steps_unmarked {d : Dialect} {s : List UInt8} (hs : ∀ x ∈ s, Unmarked d x) :
    steps d ⟨.plain, field, row, rows⟩ s = ⟨.plain, s.reverse ++ field, row, rows⟩ := by
  induction s generalizing field with
  | nil => rfl
  | cons x s ih =>
      have hstep : step d ⟨.plain, field, row, rows⟩ x = ⟨.plain, x :: field, row, rows⟩ :=
        stepPlain_unmarked (hs x (by simp)) _
      rw [steps_cons, hstep, ih _ fun y hy => hs y (List.mem_cons_of_mem _ hy)]
      simp

/-- Between quotes every byte but the quote stands for itself. -/
theorem steps_inside {d : Dialect} {s : List UInt8} (hs : ∀ x ∈ s, x ≠ d.quote) :
    steps d ⟨.quoted, field, row, rows⟩ s = ⟨.quoted, s.reverse ++ field, row, rows⟩ := by
  induction s generalizing field with
  | nil => rfl
  | cons x s ih =>
      have hstep : step d ⟨.quoted, field, row, rows⟩ x = ⟨.quoted, x :: field, row, rows⟩ :=
        if_neg (hs x (by simp))
      rw [steps_cons, hstep, ih _ fun y hy => hs y (List.mem_cons_of_mem _ hy)]
      simp

/-- A character between quotes is read as its bytes, also the quote that is written twice. -/
theorem steps_escaped_char (c : Char) :
    steps (written sep) ⟨.quoted, field, row, rows⟩ (utf8 (escaped c)) =
      ⟨.quoted, (String.utf8EncodeChar c).reverse ++ field, row, rows⟩ := by
  by_cases hc : c = '"'
  · subst hc
    rfl
  · have hone : utf8 (escaped c) = String.utf8EncodeChar c := by simp [escaped, hc]
    rw [hone]
    exact steps_inside field row rows fun x => ne_of_mem_utf8EncodeChar (by decide) hc

theorem steps_escaped (s : List Char) :
    steps (written sep) ⟨.quoted, field, row, rows⟩ (utf8 (s.flatMap escaped)) =
      ⟨.quoted, (asRead s).reverse ++ field, row, rows⟩ := by
  induction s generalizing field with
  | nil => rfl
  | cons c s ih =>
      rw [List.flatMap_cons, utf8_append, steps_append, steps_escaped_char, ih]
      simp [asRead]

/-- At the start of a field an unmarked byte is its first one. -/
theorem step_start_unmarked {d : Dialect} {x : UInt8} (hx : Unmarked d x) {start : Stage}
    (hstart : start = .recordStart ∨ start = .fieldStart) :
    step d ⟨start, [], row, rows⟩ x = ⟨.plain, [x], row, rows⟩ := by
  rcases hstart with rfl | rfl
  · simp only [step, hx.isRecordEnd_eq, Bool.false_eq_true, if_false, stepField_unmarked hx]
    rfl
  · exact stepField_unmarked hx _

/-- The reader passes over a written field. Then it stands in the field or behind its closing
quote, unless nothing was written. -/
theorem steps_fieldText (hsep : Separates sep) {start : Stage}
    (hstart : start = .recordStart ∨ start = .fieldStart) (s : List Char) :
    ∃ stage, steps (written sep) ⟨start, [], row, rows⟩ (utf8 (fieldText sep s)) =
        ⟨stage, (asRead s).reverse, row, rows⟩ ∧
      (stage = .plain ∨ stage = .closed ∨ fieldText sep s = [] ∧ stage = start) := by
  by_cases hq : needsQuotes sep s = true
  · refine ⟨.closed, ?_, .inr (.inl rfl)⟩
    have hopen : step (written sep) ⟨start, [], row, rows⟩ '"' = ⟨.quoted, [], row, rows⟩ := by
      rcases hstart with rfl | rfl <;> rfl
    have hclose : steps (written sep) ⟨.quoted, (asRead s).reverse, row, rows⟩ (utf8 ['"']) =
        ⟨.closed, (asRead s).reverse, row, rows⟩ := rfl
    -- Between the quotes the reader gathers the field with its quotes written once.
    rw [fieldText, if_pos hq, quote_eq, utf8_cons_of_ascii (by decide), steps_cons, hopen,
      utf8_append, steps_append, steps_escaped, List.append_nil]
    exact hclose
  · have hs : ∀ c ∈ s, Ordinary sep c := needsQuotes_eq_false_iff.mp (by simpa using hq)
    have hbytes : ∀ x ∈ utf8 s, Unmarked (written sep) x := fun x => unmarked_of_mem_utf8 hsep hs
    rw [fieldText, if_neg hq, asRead]
    cases hb : utf8 s with
    | nil => exact ⟨start, rfl, .inr (.inr ⟨utf8_eq_nil_iff.mp hb, rfl⟩)⟩
    | cons x bytes =>
        rw [hb] at hbytes
        have hstep := step_start_unmarked row rows (hbytes x List.mem_cons_self) hstart
        refine ⟨.plain, ?_, .inl rfl⟩
        rw [steps_cons, hstep, steps_unmarked _ _ _ fun y hy => hbytes y (List.mem_cons_of_mem _ hy)]
        simp

/-- A separator ends a field. -/
theorem step_separator (hsep : Separates sep) {stage : Stage} (hstage : stage ≠ .quoted) :
    step (written sep) ⟨stage, field, row, rows⟩ sep =
      ⟨.fieldStart, [], field.reverse :: row, rows⟩ := by
  cases stage <;>
    simp_all [step, stepField, stepPlain, endField, written, hsep.quote_ne, hsep.isRecordEnd_eq]

/-- A line feed ends a record that has begun. -/
theorem step_lineFeed (hsep : Separates sep) {stage : Stage} (hstage : stage ≠ .quoted)
    (hstart : stage ≠ .recordStart) :
    step (written sep) ⟨stage, field, row, rows⟩ '\n' =
      ⟨.recordStart, [], [], (field.reverse :: row).reverse :: rows⟩ := by
  have hn : ('\n' : UInt8) ≠ sep := (hsep.toUInt8_ne (by decide) hsep.ne_lineFeed).symm
  have hq : ('\n' : UInt8) ≠ '"' := by decide
  cases stage <;>
    simp_all [step, stepField, stepPlain, endRecord, written, isRecordEnd]

/-! ## Records -/

/-- The reader passes over the fields of a record and the line feed behind them. At the start of
a record something has to stand before the line feed. -/
theorem steps_line (hsep : Separates sep) {start : Stage}
    (hstart : start = .recordStart ∨ start = .fieldStart) {fields : List (List Char)}
    (hf : fields ≠ [])
    (hl : start = .fieldStart ∨ lineText sep fields ≠ []) :
    steps (written sep) ⟨start, [], row, rows⟩ (utf8 (lineText sep fields ++ ['\n'])) =
      ⟨.recordStart, [], [], (row.reverse ++ fields.map asRead) :: rows⟩ := by
  -- After the first field the reader is at the start of a further one, so the induction is over
  -- both starts, and only the first of them needs `hl`.
  induction fields generalizing start row with
  | nil => exact absurd rfl hf
  | cons s fields ih =>
      obtain ⟨stage, hsteps, hstage⟩ := steps_fieldText row rows hsep hstart s
      have hq : stage ≠ .quoted := by
        rcases hstage with rfl | rfl | ⟨-, rfl⟩
        · decide
        · decide
        · rcases hstart with rfl | rfl <;> decide
      cases fields with
      | nil =>
          rw [lineText_singleton] at hl ⊢
          -- Had nothing been written at the start of the record, the line feed would be skipped.
          have hr : stage ≠ .recordStart := by
            rcases hstage with rfl | rfl | ⟨he, rfl⟩
            · decide
            · decide
            · rcases hl with rfl | hne
              · decide
              · exact absurd he hne
          have hend := step_lineFeed (asRead s).reverse row rows hsep hq hr
          rw [utf8_append, steps_append, hsteps]
          exact hend.trans (by simp)
      | cons t fields =>
          have hnext := step_separator (asRead s).reverse row rows hsep hq
          rw [lineText_cons_cons, List.append_assoc, utf8_append, steps_append, hsteps,
            List.cons_append, utf8_cons_of_ascii hsep.ascii, steps_cons, hnext,
            ih _ (.inr rfl) (List.cons_ne_nil t fields) (.inl rfl)]
          simp

/-- Only a single empty field leaves nothing to write. -/
theorem eq_singleton_nil_of_line_eq_nil {fields : List (List Char)} (hf : fields ≠ [])
    (hl : lineText sep fields = []) : fields = [[]] := by
  rcases fields with _ | ⟨s, _ | ⟨t, fields⟩⟩
  · exact absurd rfl hf
  · rw [lineText_singleton] at hl
    unfold fieldText at hl
    split at hl
    · cases hl
    · rw [hl]
  · simp [lineText_cons_cons] at hl

/-- A written record is read as its fields. -/
theorem steps_recordText (hsep : Separates sep) {fields : List (List Char)} (hf : fields ≠ []) :
    steps (written sep) ⟨.recordStart, [], [], rows⟩ (utf8 (recordText sep fields)) =
      ⟨.recordStart, [], [], fields.map asRead :: rows⟩ := by
  rw [recordText_eq]
  by_cases hl : lineText sep fields = []
  · -- The two quotes are a field without characters, and the line feed ends its record.
    have hfields := eq_singleton_nil_of_line_eq_nil hf hl
    subst hfields
    have hquotes : steps (written sep) ⟨.recordStart, [], [], rows⟩ (utf8 ['"', '"']) =
        ⟨.closed, [], [], rows⟩ := rfl
    have hend := step_lineFeed [] [] rows hsep (by decide : Stage.closed ≠ .quoted) (by decide)
    rw [if_pos hl, utf8_append, steps_append, hquotes]
    exact hend
  · rw [if_neg hl]
    exact steps_line [] rows hsep (.inl rfl) hf (.inr hl)

theorem steps_fileText (hsep : Separates sep) {file : List (List (List Char))}
    (hf : ∀ fields ∈ file, fields ≠ []) :
    steps (written sep) ⟨.recordStart, [], [], rows⟩ (utf8 (fileText sep file)) =
      ⟨.recordStart, [], [], (file.map fun fields => fields.map asRead).reverse ++ rows⟩ := by
  induction file generalizing rows with
  | nil => rfl
  | cons fields file ih =>
      have hcons : fileText sep (fields :: file) = recordText sep fields ++ fileText sep file :=
        rfl
      rw [hcons, utf8_append, steps_append, steps_recordText rows hsep (hf fields (by simp)),
        ih _ fun fields h => hf fields (List.mem_cons_of_mem _ h)]
      simp

end Reading

/-! ## Files -/

theorem head?_fieldText {s : List Char} {c : Char} (h : (fieldText sep s).head? = some c) :
    c = '"' ∨ s.head? = some c := by
  unfold fieldText at h
  split at h
  · exact .inl (by simpa [quote] using h.symm)
  · exact .inr h

/-- The first character of a line is one of its first field, a quote around it, or the separator
behind it. -/
theorem head?_lineText {s : List Char} {fields : List (List Char)} {c : Char}
    (h : (lineText sep (s :: fields)).head? = some c) : c = '"' ∨ c = sep ∨ s.head? = some c := by
  cases fields with
  | nil =>
      rw [lineText_singleton] at h
      exact (head?_fieldText h).imp_right .inr
  | cons t fields =>
      rw [lineText_cons_cons, List.head?_append] at h
      cases hs : (fieldText sep s).head? with
      | none =>
          rw [hs] at h
          exact .inr (.inl (by simpa using h.symm))
      | some d =>
          rw [hs] at h
          obtain rfl : d = c := by simpa using h
          exact (head?_fieldText hs).imp_right .inr

theorem head?_recordText {s : List Char} {fields : List (List Char)} {c : Char}
    (h : (recordText sep (s :: fields)).head? = some c) :
    c = '"' ∨ c = sep ∨ s.head? = some c := by
  rw [recordText_eq] at h
  by_cases hl : lineText sep (s :: fields) = []
  · rw [if_pos hl] at h
    exact .inl (by simpa using h.symm)
  · rw [if_neg hl, List.head?_append, List.head?_eq_some_head hl, Option.some_or] at h
    exact head?_lineText (by rw [List.head?_eq_some_head hl, h])

theorem dropMark_eq_self {s : List UInt8} (h : ¬mark <+: s) : dropMark s = s := if_neg h

theorem not_mark_prefix_utf8 {s : List Char} (h : s.head? ≠ some '\ufeff') : ¬mark <+: utf8 s :=
  fun hm => h (eq_of_prefix_utf8 hm)

theorem not_mark_head_fileText (hsep : Separates sep) {file : List (List (List Char))}
    (hf : ∀ fields ∈ file, fields ≠ [])
    (hm : ∀ fields ∈ file.head?, ∀ s ∈ fields.head?, s.head? ≠ some '\ufeff') :
    (fileText sep file).head? ≠ some '\ufeff' := by
  rcases file with _ | ⟨_ | ⟨s, fields⟩, file⟩
  · simp [fileText]
  · exact absurd rfl (hf [] (by simp))
  · intro h
    have hne : recordText sep (s :: fields) ≠ [] := by simp [recordText]
    have hr : (recordText sep (s :: fields)).head? = some '\ufeff' := by
      have happend : fileText sep ((s :: fields) :: file) =
          recordText sep (s :: fields) ++ fileText sep file := rfl
      rwa [happend, List.head?_append_of_ne_nil _ hne] at h
    -- A quote and a separator are ASCII, so the mark is the first character of the field.
    rcases head?_recordText hr with h | h | h
    · revert h
      decide
    · have hascii := hsep.ascii
      rw [← h] at hascii
      revert hascii
      decide
    · exact hm _ rfl s rfl h

/-- A written file is read as its records, unless a byte order mark is the first character of
its first field. -/
theorem records_fileText (hsep : Separates sep) {file : List (List (List Char))}
    (hf : ∀ fields ∈ file, fields ≠ [])
    (hm : ∀ fields ∈ file.head?, ∀ s ∈ fields.head?, s.head? ≠ some '\ufeff') :
    records (written sep) (utf8 (fileText sep file)) = file.map fun fields => fields.map asRead := by
  have hmark := not_mark_head_fileText hsep hf hm
  have hsteps := Reading.steps_fileText [] hsep hf
  rw [records, dropMark_eq_self (not_mark_prefix_utf8 hmark), Reading.start, hsteps]
  simp [Reading.finish]

/-! ## Fields of a record -/

namespace Reading

/-- The finished records have fields. -/
def Filled (r : Reading) : Prop := ∀ fields ∈ r.rows, fields ≠ []

theorem filled_endRecord {r : Reading} (h : r.Filled) : r.endRecord.Filled := by
  intro fields hf
  rcases List.mem_cons.mp hf with rfl | hf
  · simp
  · exact h fields hf

theorem filled_stepPlain (d : Dialect) {r : Reading} (h : r.Filled) (x : UInt8) :
    (r.stepPlain d x).Filled := by
  unfold stepPlain
  split
  · exact h
  · split
    · exact filled_endRecord h
    · exact h

theorem filled_stepField (d : Dialect) {r : Reading} (h : r.Filled) (x : UInt8) :
    (r.stepField d x).Filled := by
  unfold stepField
  split
  · exact h
  · exact filled_stepPlain d h x

theorem filled_step (d : Dialect) {r : Reading} (h : r.Filled) (x : UInt8) :
    (r.step d x).Filled := by
  obtain ⟨stage, field, row, rows⟩ := r
  cases stage with
  | recordStart =>
      simp only [step]
      split
      · exact h
      · exact filled_stepField d h x
  | fieldStart => exact filled_stepField d h x
  | plain => exact filled_stepPlain d h x
  | quoted =>
      simp only [step]
      split <;> exact h
  | closed =>
      simp only [step]
      split
      · exact h
      · exact filled_stepPlain d h x

theorem filled_steps (d : Dialect) {r : Reading} (h : r.Filled) (s : List UInt8) :
    (r.steps d s).Filled := by
  induction s generalizing r with
  | nil => exact h
  | cons x s ih => exact ih (filled_step d h x)

end Reading

/-- Every record has a field. -/
theorem ne_nil_of_mem_records {d : Dialect} {s : List UInt8} {fields : List Field}
    (h : fields ∈ records d s) : fields ≠ [] := by
  have hstart : Reading.start.Filled := by simp [Reading.Filled, Reading.start]
  have hr := Reading.filled_steps d hstart (dropMark s)
  unfold records Reading.finish at h
  split at h
  · exact hr fields (List.mem_reverse.mp h)
  · exact Reading.filled_endRecord hr fields (List.mem_reverse.mp h)

end Tabular.Delimited
