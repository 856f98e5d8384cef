import Mathlib.Data.List.Induction
import Tabular.Proofs.Delimited.Detection

set_option autoImplicit false

/-! # Separators of a line

A delimiter is looked for by counting it outside quotes, where every quote opens or closes, and a
file is read by a machine that opens a quoted part only at the start of a field. Both are described
here by what stands before a delimiter: the counter counts it when the number of quotes before it
is even (`countUnquoted_eq`), and the reader ends a field at it unless it is in a quoted part
(`exists_records_eq`).

The two differ by the *stray* quotes, which the reader takes as characters of a field: it is in a
quoted part when the number of the other quotes is odd (`inQuotes_eq`). So a delimiter is treated
differently exactly when an odd number of stray quotes stands before it, and the counter finds
the number of separators when these differences cancel out (`count_eq_fields_iff`).
-/

namespace Tabular.Delimited

open Text

variable {delimiter : UInt8}

/-! ## Counting by what stands before -/

/-- The number of places of a byte at which what stands before has a property. -/
def countWhere (x : UInt8) (p : List UInt8 → Bool) (s : List UInt8) : Nat :=
  (List.range s.length).countP fun i => s[i]? = some x && p (s.take i)

section CountWhere

variable (x : UInt8) (p q : List UInt8 → Bool)

@[simp] theorem countWhere_nil : countWhere x p [] = 0 := rfl

theorem countWhere_concat (s : List UInt8) (y : UInt8) :
    countWhere x p (s ++ [y]) =
      countWhere x p s + if y = x ∧ p s = true then 1 else 0 := by
  have hbefore : (List.range s.length).countP
      (fun i => (s ++ [y])[i]? = some x && p ((s ++ [y]).take i)) =
        countWhere x p s := by
    refine List.countP_congr fun i hi => ?_
    have hlt : i < s.length := List.mem_range.mp hi
    rw [List.getElem?_append_left hlt, List.take_append_of_le_length (Nat.le_of_lt hlt)]
  have hlast : (decide ((s ++ [y])[s.length]? = some x) &&
      p ((s ++ [y]).take s.length)) = decide (y = x ∧ p s = true) := by
    simp
  rw [countWhere, List.length_append, List.length_singleton, List.range_succ, List.countP_append,
    hbefore, List.countP_singleton, hlast]
  simp

/-- Two counts differ by the places that one of them takes alone. -/
theorem countWhere_add (s : List UInt8) :
    countWhere x p s + countWhere x (fun t => !p t && q t) s =
      countWhere x q s + countWhere x (fun t => p t && !q t) s := by
  induction s using List.reverseRecOn with
  | nil => rfl
  | append_singleton s y ih =>
      simp only [countWhere_concat]
      by_cases hy : y = x
      · cases p s <;> cases q s <;> simp [hy] <;> omega
      · simp only [hy, false_and, if_false]
        omega

variable {p q}

/-- Only what stands before the places of the byte matters. -/
theorem countWhere_congr {s : List UInt8}
    (h : ∀ before after, s = before ++ x :: after → p before = q before) :
    countWhere x p s = countWhere x q s := by
  induction s using List.reverseRecOn with
  | nil => rfl
  | append_singleton s y ih =>
      rw [countWhere_concat, countWhere_concat,
        ih fun before after he => h before (after ++ [y]) (by rw [he]; simp)]
      by_cases hy : y = x
      · rw [h s [] (by rw [hy])]
      · simp [hy]

theorem countWhere_eq_zero_iff {s : List UInt8} :
    countWhere x p s = 0 ↔ ∀ before after, s = before ++ x :: after → p before = false := by
  constructor
  · rintro h before after rfl
    rw [countWhere, List.countP_eq_zero] at h
    simpa using h before.length (by simp)
  · intro h
    rw [countWhere_congr x h]
    simp [countWhere]

end CountWhere

/-! ## The counter -/

/-- A quote is open when every quote opens or closes. -/
def oddQuotes (s : List UInt8) : Bool := s.count ('"' : UInt8) % 2 = 1

theorem odd_succ (n : Nat) : decide ((n + 1) % 2 = 1) = !decide (n % 2 = 1) := by
  rcases Nat.mod_two_eq_zero_or_one n with h | h <;> simp [Nat.add_mod, h]

theorem oddQuotes_cons (x : UInt8) (s : List UInt8) :
    oddQuotes (x :: s) = (oddQuotes s ^^ decide (x = '"')) := by
  by_cases hx : x = '"'
  · simp [oddQuotes, hx, odd_succ]
  · simp [oddQuotes, hx]

theorem oddQuotes_concat (s : List UInt8) (x : UInt8) :
    oddQuotes (s ++ [x]) = (oddQuotes s ^^ decide (x = '"')) := by
  have hperm : oddQuotes (s ++ [x]) = oddQuotes (x :: s) := by
    rw [oddQuotes, oddQuotes, (List.perm_append_singleton x s).count_eq]
  rw [hperm, oddQuotes_cons]

theorem countOutside_concat (hq : delimiter ≠ '"') (inside : Bool) (s : List UInt8) (x : UInt8) :
    countOutside delimiter inside (s ++ [x]) = countOutside delimiter inside s +
      if x = delimiter ∧ (oddQuotes s ^^ inside) = false then 1 else 0 := by
  -- A quote turns the state over, so the induction is for both states at once.
  induction s generalizing inside with
  | nil =>
      by_cases hx : x = '"'
      · subst hx
        simp [countOutside, Ne.symm hq]
      · by_cases hd : x = delimiter <;> simp [countOutside, oddQuotes, hx, hd, hq]
  | cons y s ih =>
      rw [List.cons_append, oddQuotes_cons]
      by_cases hy : y = '"'
      · subst hy
        rw [countOutside_quote, countOutside_quote, ih]
        simp
      · by_cases hd : y = delimiter ∧ inside = false
        · obtain ⟨rfl, rfl⟩ := hd
          rw [countOutside_delimiter hq, countOutside_delimiter hq, ih]
          simp [hy]
          omega
        · have hskip : ∀ rest, countOutside delimiter inside (y :: rest) =
              countOutside delimiter inside rest := by
            intro rest
            rw [countOutside, if_neg hy, if_neg hd]
          rw [hskip, hskip, ih]
          simp [hy]

/-- The counter counts the delimiters with an even number of quotes before them. -/
theorem countUnquoted_eq (hq : delimiter ≠ '"') (line : List UInt8) :
    countUnquoted delimiter line = countWhere delimiter (fun s => !oddQuotes s) line := by
  induction line using List.reverseRecOn with
  | nil => rfl
  | append_singleton line x ih =>
      rw [countUnquoted, countOutside_concat hq, ← countUnquoted, ih, countWhere_concat]
      simp

/-! ## The reader -/

/-- The stage after a byte of a line. -/
def Stage.after (d : Dialect) (stage : Stage) (x : UInt8) : Stage :=
  if x = d.quote then
    match stage with
    | .quoted => .closed
    | .plain => .plain
    | _ => .quoted
  else if stage = .quoted then .quoted
  else if x = d.delimiter then .fieldStart
  else .plain

/-- Only a quote enters a quoted part or leaves it. -/
theorem Stage.after_eq_quoted_iff {d : Dialect} {x : UInt8} (hx : x ≠ d.quote)
    (stage : Stage) : stage.after d x = .quoted ↔ stage = .quoted := by
  unfold after
  rw [if_neg hx]
  split
  · simp [*]
  · split <;> simp [*]

theorem Stage.after_quote_eq_quoted_iff (d : Dialect) (stage : Stage) :
    stage.after d (d.quote) = .quoted ↔ stage ≠ .quoted ∧ stage ≠ .plain := by
  unfold after
  rw [if_pos rfl]
  cases stage <;> simp

/-- A quote behind other characters outside of a quoted part changes nothing. -/
theorem Stage.after_quote_eq_plain_iff (d : Dialect) (stage : Stage) :
    stage.after d (d.quote) = .plain ↔ stage = .plain := by
  unfold after
  rw [if_pos rfl]
  cases stage <;> simp

theorem Stage.after_delimiter_ne_plain {d : Dialect} (hd : d.delimiter ≠ d.quote) (stage : Stage) :
    stage.after d (d.delimiter) ≠ .plain := by
  unfold after
  rw [if_neg (by simpa using hd)]
  split <;> simp

/-- A byte of a line begins no record. -/
theorem Stage.after_ne_recordStart (d : Dialect) (stage : Stage) (x : UInt8) :
    stage.after d x ≠ .recordStart := by
  unfold after
  split
  · cases stage <;> simp
  · split
    · simp
    · split <;> simp

/-- What a byte of a line does: it moves the stage on, and a delimiter outside of a quoted part
ends a field. -/
structure Reading.Follows (d : Dialect) (r r' : Reading) (x : UInt8) : Prop where
  stage_eq : r'.stage = r.stage.after d x
  rows_eq : r'.rows = r.rows
  length_row : r'.row.length =
    r.row.length + if x = d.delimiter ∧ r.stage ≠ .quoted then 1 else 0

theorem Reading.follows_step {d : Dialect} (hd : d.delimiter ≠ d.quote) (r : Reading) {x : UInt8}
    (hx : isRecordEnd x = false) : r.Follows d (r.step d x) x := by
  obtain ⟨stage, field, row, rows⟩ := r
  -- The quote, the delimiter or another byte, each of them at every stage.
  by_cases hq : x = d.quote
  · subst hq
    have hne : d.quote ≠ d.delimiter := by simpa using Ne.symm hd
    cases stage <;> constructor <;>
      simp [step, stepField, stepPlain, push, Stage.after, hx, hne]
  · by_cases hs : x = d.delimiter
    · subst hs
      cases stage <;> constructor <;>
        simp [step, stepField, stepPlain, push, endField, Stage.after, hx, hq]
    · cases stage <;> constructor <;>
        simp [step, stepField, stepPlain, push, Stage.after, hx, hq, hs]

theorem Reading.finish_eq {r : Reading} (h : r.stage ≠ .recordStart) :
    r.finish = r.endRecord.rows.reverse := by
  unfold finish
  split
  · exact absurd ‹_› h
  · rfl

/-- The stage of the reader behind the beginning of a line. -/
def stageAfter (delimiter : UInt8) (s : List UInt8) : Stage :=
  (Reading.start.steps (written delimiter) s).stage

def inQuotes (delimiter : UInt8) (s : List UInt8) : Bool := stageAfter delimiter s = .quoted

theorem inQuotes_iff {s : List UInt8} :
    inQuotes delimiter s = true ↔ stageAfter delimiter s = .quoted := by
  simp [inQuotes]

theorem steps_concat (d : Dialect) (r : Reading) (s : List UInt8) (x : UInt8) :
    r.steps d (s ++ [x]) = (r.steps d s).step d x := by
  rw [Reading.steps_append]
  rfl

theorem stageAfter_concat (hq : delimiter ≠ '"') (s : List UInt8) {x : UInt8}
    (hx : isRecordEnd x = false) :
    stageAfter delimiter (s ++ [x]) = (stageAfter delimiter s).after (written delimiter) x := by
  rw [stageAfter, steps_concat]
  exact (Reading.follows_step hq _ hx).stage_eq

/-- On a line no record ends, and one field for each delimiter outside of a quoted part. -/
theorem steps_within_line (hq : delimiter ≠ '"') {line : List UInt8}
    (hbreak : ∀ x ∈ line, isRecordEnd x = false) :
    (Reading.start.steps (written delimiter) line).rows = [] ∧
      (Reading.start.steps (written delimiter) line).row.length =
        countWhere delimiter (fun s => !inQuotes delimiter s) line := by
  induction line using List.reverseRecOn with
  | nil => exact ⟨rfl, rfl⟩
  | append_singleton line x ih =>
      obtain ⟨hrows, hrow⟩ := ih fun y hy => hbreak y (List.mem_append_left _ hy)
      have hstep := Reading.follows_step (d := written delimiter) hq
        (Reading.start.steps (written delimiter) line) (hbreak x (by simp))
      rw [steps_concat]
      refine ⟨hstep.rows_eq.trans hrows, ?_⟩
      have houtside : (!inQuotes delimiter line) = true ↔ stageAfter delimiter line ≠ .quoted := by
        rw [Bool.not_eq_true', ← Bool.not_eq_true, inQuotes_iff]
      rw [hstep.length_row, hrow, countWhere_concat]
      simp only [houtside]
      rfl

/-- The reader finds one record on a line, with a field more than there are delimiters outside of
a quoted part. -/
theorem exists_records_eq (hq : delimiter ≠ '"') {line : List UInt8} (hne : line ≠ [])
    (hbreak : ∀ x ∈ line, isRecordEnd x = false) (hmark : ¬mark <+: line) :
    ∃ fields, records (written delimiter) line = [fields] ∧ fields.length =
      countWhere delimiter (fun s => !inQuotes delimiter s) line + 1 := by
  obtain ⟨hrows, hrow⟩ := steps_within_line hq hbreak
  have hstage : (Reading.start.steps (written delimiter) line).stage ≠ .recordStart := by
    obtain ⟨s, x, rfl⟩ : ∃ s x, line = s ++ [x] := ⟨_, _, (List.dropLast_concat_getLast hne).symm⟩
    have hlast := stageAfter_concat hq s (hbreak x (by simp))
    rw [stageAfter] at hlast
    rw [hlast]
    exact Stage.after_ne_recordStart _ _ _
  generalize hr : Reading.start.steps (written delimiter) line = r at hrows hrow hstage
  refine ⟨(r.field.reverse :: r.row).reverse, ?_, by simp [hrow]⟩
  rw [records, dropMark_eq_self hmark, hr, Reading.finish_eq hstage, Reading.endRecord, hrows]
  rfl

/-! ## Stray quotes -/

/-- The number of quotes that the reader takes as characters of a field: they stand outside of its
quoted part, behind other characters. -/
def strayQuotes (delimiter : UInt8) (s : List UInt8) : Nat :=
  countWhere '"' (fun before => stageAfter delimiter before = .plain) s

def oddStrays (delimiter : UInt8) (s : List UInt8) : Bool := strayQuotes delimiter s % 2 = 1

theorem strayQuotes_concat (s : List UInt8) (x : UInt8) :
    strayQuotes delimiter (s ++ [x]) = strayQuotes delimiter s +
      if x = '"' ∧ stageAfter delimiter s = .plain then 1 else 0 := by
  rw [strayQuotes, countWhere_concat]
  simp only [decide_eq_true_eq]
  rfl

theorem oddStrays_concat (s : List UInt8) (x : UInt8) :
    oddStrays delimiter (s ++ [x]) =
      (oddStrays delimiter s ^^ decide (x = '"' ∧ stageAfter delimiter s = .plain)) := by
  rw [oddStrays, strayQuotes_concat, oddStrays]
  by_cases h : x = '"' ∧ stageAfter delimiter s = .plain
  · rw [if_pos h, odd_succ]
    simp [h]
  · rw [if_neg h]
    simp [h]

/-- Every quote but a stray one opens or closes a quoted part. -/
theorem inQuotes_eq (hq : delimiter ≠ '"') {line : List UInt8}
    (hbreak : ∀ x ∈ line, isRecordEnd x = false) :
    inQuotes delimiter line = (oddQuotes line ^^ oddStrays delimiter line) := by
  induction line using List.reverseRecOn with
  | nil => rfl
  | append_singleton line x ih =>
      have hline := ih fun y hy => hbreak y (List.mem_append_left _ hy)
      have hstep := stageAfter_concat hq line (hbreak x (by simp))
      rw [oddQuotes_concat, oddStrays_concat, inQuotes, hstep]
      unfold inQuotes at hline
      by_cases hx : x = '"'
      · subst hx
        have hafter : (stageAfter delimiter line).after (written delimiter) '"' = .quoted ↔
            stageAfter delimiter line ≠ .quoted ∧ stageAfter delimiter line ≠ .plain :=
          Stage.after_quote_eq_quoted_iff (written delimiter) _
        by_cases hp : stageAfter delimiter line = .plain
        · -- A stray quote: both numbers change, and the reader stays outside of quotes.
          rw [decide_eq_false fun h => (hafter.mp h).2 hp]
          simpa [hp] using hline
        · -- Any other quote opens or closes, and is not stray.
          simp [hafter, hp, hline]
      · simp [Stage.after_eq_quoted_iff (d := written delimiter) hx, hline, hx]

/-! ## Where they agree -/

/-- The delimiters that the counter passes over although they end a field. -/
def passedOver (delimiter : UInt8) (line : List UInt8) : Nat :=
  countWhere delimiter (fun s => oddStrays delimiter s && !inQuotes delimiter s) line

/-- The delimiters that it counts although they stand in a quoted part. -/
def overcounted (delimiter : UInt8) (line : List UInt8) : Nat :=
  countWhere delimiter (fun s => oddStrays delimiter s && inQuotes delimiter s) line

/-- The counter and the reader differ by the delimiters with an odd number of stray quotes before
them. -/
theorem countUnquoted_add_passedOver (hq : delimiter ≠ '"') {line : List UInt8}
    (hbreak : ∀ x ∈ line, isRecordEnd x = false) :
    countUnquoted delimiter line + passedOver delimiter line =
      countWhere delimiter (fun s => !inQuotes delimiter s) line +
        overcounted delimiter line := by
  have hbefore : ∀ before after, line = before ++ delimiter :: after →
      inQuotes delimiter before = (oddQuotes before ^^ oddStrays delimiter before) := by
    rintro before after rfl
    exact inQuotes_eq hq fun x hx => hbreak x (List.mem_append_left _ hx)
  have hpassed : passedOver delimiter line =
      countWhere delimiter (fun s => !!oddQuotes s && !inQuotes delimiter s) line := by
    refine countWhere_congr _ fun before after he => ?_
    rw [hbefore before after he]
    cases oddQuotes before <;> cases oddStrays delimiter before <;> rfl
  have hover : overcounted delimiter line =
      countWhere delimiter (fun s => !oddQuotes s && !!inQuotes delimiter s) line := by
    refine countWhere_congr _ fun before after he => ?_
    rw [hbefore before after he]
    cases oddQuotes before <;> cases oddStrays delimiter before <;> rfl
  rw [countUnquoted_eq hq, hpassed, hover]
  exact countWhere_add _ (fun s => !oddQuotes s) (fun s => !inQuotes delimiter s) line

/-- Every quote with an even number of quotes before it stands at the start of the line, behind a
delimiter or behind another quote: it opens a quoted part. -/
def WellQuoted (delimiter : UInt8) (line : List UInt8) : Prop :=
  ∀ before after, line = before ++ ('"' : UInt8) :: after → oddQuotes before = false →
    before = [] ∨ before.getLast? = some delimiter ∨ before.getLast? = some ('"' : UInt8)

instance (line : List UInt8) : Decidable (WellQuoted delimiter line) :=
  decidable_of_iff (countWhere '"' (fun before => !oddQuotes before &&
    !(before = [] || before.getLast? = some delimiter ||
      before.getLast? = some ('"' : UInt8))) line = 0) <| by
    rw [countWhere_eq_zero_iff, WellQuoted]
    simp [imp_iff_not_or, or_assoc]

theorem WellQuoted.of_append {s t : List UInt8} (h : WellQuoted delimiter (s ++ t)) :
    WellQuoted delimiter s := fun before after he =>
  h before (after ++ t) (by rw [he, List.append_assoc, List.cons_append])

/-- On such a line no quote is stray. -/
theorem strayQuotes_of_wellQuoted (hq : delimiter ≠ '"') {line : List UInt8}
    (hbreak : ∀ x ∈ line, isRecordEnd x = false) (h : WellQuoted delimiter line) :
    strayQuotes delimiter line = 0 := by
  induction line using List.reverseRecOn with
  | nil => rfl
  | append_singleton line x ih =>
      have hbefore : ∀ y ∈ line, isRecordEnd y = false :=
        fun y hy => hbreak y (List.mem_append_left _ hy)
      have hnone : strayQuotes delimiter line = 0 := ih hbefore h.of_append
      rw [strayQuotes_concat, hnone, if_neg]
      rintro ⟨rfl, hplain⟩
      -- Outside of quoted parts, and with no stray quote before, the number of quotes is even.
      have heven : oddQuotes line = false := by
        have hin := inQuotes_eq hq hbefore
        rw [inQuotes, hplain, oddStrays, hnone] at hin
        simpa using hin.symm
      rcases h line [] rfl heven with rfl | hlast | hlast
      · cases hplain
      · obtain ⟨s, rfl⟩ := List.getLast?_eq_some_iff.mp hlast
        rw [stageAfter_concat hq s (hbefore _ (by simp))] at hplain
        exact Stage.after_delimiter_ne_plain (d := written delimiter) hq _ hplain
      · obtain ⟨s, rfl⟩ := List.getLast?_eq_some_iff.mp hlast
        rw [stageAfter_concat hq s (hbefore _ (by simp))] at hplain
        rw [strayQuotes_concat,
          if_pos ⟨rfl, (Stage.after_quote_eq_plain_iff (written delimiter) _).mp hplain⟩] at hnone
        omega

example : WellQuoted ',' (utf8 "\"a,\"\"b\"c,d".toList) ∧
    ¬WellQuoted '\t' (utf8 "5\" pipe\tcount".toList) := by
  decide +kernel

/-- Counting the delimiters outside quotes and reading agree on a line exactly if, of the
delimiters with an odd number of stray quotes before them, as many end a field as stand in a quoted
part. In particular they agree on a line without such a delimiter, and on one where every quote
that does not close a quoted part opens one. -/
theorem count_eq_fields_iff (hd : delimiter ∈ candidates) {line : List UInt8} (hne : line ≠ [])
    (hbreak : ∀ x ∈ line, isRecordEnd x = false) (hmark : ¬mark <+: line) :
    ∃ fields, records ⟨delimiter, '"'⟩ line = [fields] ∧
      (countUnquoted delimiter line + 1 = fields.length ↔
        passedOver delimiter line = overcounted delimiter line) ∧
      ((∀ before after, line = before ++ delimiter :: after →
          oddStrays delimiter before = false) → countUnquoted delimiter line + 1 = fields.length) ∧
      (WellQuoted delimiter line → countUnquoted delimiter line + 1 = fields.length) := by
  have hq := ne_quote_of_mem_candidates hd
  obtain ⟨fields, hread, hlength⟩ := exists_records_eq hq hne hbreak hmark
  have hadd := countUnquoted_add_passedOver hq hbreak
  have heven (h : ∀ before after, line = before ++ delimiter :: after →
      oddStrays delimiter before = false) : countUnquoted delimiter line + 1 = fields.length := by
    have hpassed : passedOver delimiter line = 0 :=
      (countWhere_eq_zero_iff _).mpr fun before after he => by rw [h before after he, Bool.false_and]
    have hover : overcounted delimiter line = 0 :=
      (countWhere_eq_zero_iff _).mpr fun before after he => by rw [h before after he, Bool.false_and]
    omega
  refine ⟨fields, hread, ?_, heven, fun h => heven fun before after he => ?_⟩
  · rw [hlength]
    omega
  · subst he
    have hnone := strayQuotes_of_wellQuoted hq
      (fun x hx => hbreak x (List.mem_append_left _ hx)) h.of_append
    rw [oddStrays, hnone]
    rfl

/-- Here a comma is passed over behind the first quote, and another one counted in the quoted
field. -/
theorem count_eq_fields_of_two_slips :
    let line := utf8 "a\"b,\"c,d\"".toList
    (',' : UInt8) ∈ candidates ∧ line ≠ [] ∧ (∀ x ∈ line, isRecordEnd x = false) ∧
      ¬mark <+: line ∧ passedOver ',' line = 1 ∧ overcounted ',' line = 1 ∧
      ∃ fields, records ⟨',', '"'⟩ line = [fields] ∧
        countUnquoted ',' line + 1 = fields.length := by
  intro line
  have hd : (',' : UInt8) ∈ candidates := by decide
  have hne : line ≠ [] := by decide +kernel
  have hbreak : ∀ x ∈ line, isRecordEnd x = false := by decide +kernel
  have hmark : ¬mark <+: line := by decide +kernel
  have hpassed : passedOver ',' line = 1 := by decide +kernel
  have hover : overcounted ',' line = 1 := by decide +kernel
  obtain ⟨fields, hread, hiff, -⟩ := count_eq_fields_iff hd hne hbreak hmark
  exact ⟨hd, hne, hbreak, hmark, hpassed, hover, fields, hread, hiff.mpr (hpassed.trans hover.symm)⟩

/-- An inch mark in a header hides the tab behind it from the counter, but not from the reader; a
file with this header row is taken for one with commas. -/
theorem inch_mark_hides_delimiter :
    let line := utf8 "5\" pipe\tcount".toList
    ('\t' : UInt8) ∈ candidates ∧ isWritten line = true ∧ (∀ x ∈ line, isRecordEnd x = false) ∧
      ¬mark <+: line ∧
      records ⟨'\t', '"'⟩ line = [[utf8 "5\" pipe".toList, utf8 "count".toList]] ∧
      countUnquoted '\t' line + 1 = 1 ∧
      detect? (utf8 "5\" pipe\tcount\n1\t2\n".toList) = some (',' : UInt8) := by
  decide +kernel

end Tabular.Delimited
