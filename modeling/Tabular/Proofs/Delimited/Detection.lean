import Mathlib.Data.List.Induction
import Tabular.Delimited.Detect
import Tabular.Proofs.Delimited.ReadBack

set_option autoImplicit false

/-! # Finding the delimiter of a written file

The first line of a written file decides alone. On it, a separator counts only where it separates
fields: what stands in a field is either free of separators or in quotes, and quotes that are
written twice leave a quoted field and enter it again at once (`countOutside_fieldText`). So the
separator of the file counts as many times as there are fields to separate
(`countUnquoted_line`), while a candidate that occurs in no field of the first line does not count
at all and is out, whatever the other lines hold (`detect?_fileText`).
-/

namespace Tabular.Delimited

open Text

variable {sep : Char} {delimiter : UInt8}

/-! ## Counting on written lines -/

theorem countOutside_ordinary {x : UInt8} (hq : x ≠ '"') (hd : x ≠ delimiter)
    (inside : Bool) (rest : List UInt8) :
    countOutside delimiter inside (x :: rest) = countOutside delimiter inside rest := by
  simp [countOutside, hq, hd]

theorem countOutside_quote (inside : Bool) (rest : List UInt8) :
    countOutside delimiter inside (('"' : UInt8) :: rest) =
      countOutside delimiter (!inside) rest := by
  simp [countOutside]

/-- Between quotes nothing counts. -/
theorem countOutside_inside {s : List UInt8} (hq : ∀ x ∈ s, x ≠ '"') (rest : List UInt8) :
    countOutside delimiter true (s ++ rest) = countOutside delimiter true rest := by
  induction s with
  | nil => rfl
  | cons x s ih =>
      have hx : x ≠ '"' := hq x (by simp)
      rw [List.cons_append, countOutside, if_neg hx, if_neg (by simp)]
      exact ih fun y hy => hq y (List.mem_cons_of_mem _ hy)

theorem countOutside_delimiter (hq : delimiter ≠ '"') (rest : List UInt8) :
    countOutside delimiter false (delimiter :: rest) =
      countOutside delimiter false rest + 1 := by
  simp [countOutside, hq]

/-- No character of a quoted field counts. -/
theorem countOutside_escaped (s : List Char) (rest : List UInt8) :
    countOutside delimiter true (utf8 (s.flatMap escaped) ++ rest) =
      countOutside delimiter true rest := by
  induction s with
  | nil => rfl
  | cons c s ih =>
      rw [List.flatMap_cons, utf8_append, List.append_assoc]
      by_cases hc : c = '"'
      · subst hc
        show countOutside delimiter true (('"' : UInt8) :: ('"' : UInt8) :: _) = _
        rw [countOutside_quote, countOutside_quote]
        exact ih
      · have hone : utf8 (escaped c) = String.utf8EncodeChar c := by simp [escaped, hc]
        rw [hone, countOutside_inside fun x => ne_of_mem_utf8EncodeChar (by decide) hc]
        exact ih

theorem countOutside_plain {s : List UInt8} (hs : ∀ x ∈ s, x ≠ '"' ∧ x ≠ delimiter)
    (inside : Bool) (rest : List UInt8) :
    countOutside delimiter inside (s ++ rest) = countOutside delimiter inside rest := by
  induction s with
  | nil => rfl
  | cons x s ih =>
      obtain ⟨hq, hd⟩ := hs x (by simp)
      rw [List.cons_append, countOutside_ordinary hq hd]
      exact ih fun y hy => hs y (List.mem_cons_of_mem _ hy)

/-- Neither the separator nor what does not occur in a field counts in it. -/
theorem countOutside_fieldText (hsep : Separates sep) {s : List Char}
    (hs : delimiter = sep ∨ delimiter ∉ utf8 s) (rest : List UInt8) :
    countOutside delimiter false (utf8 (fieldText sep s) ++ rest) =
      countOutside delimiter false rest := by
  by_cases hq : needsQuotes sep s = true
  · rw [fieldText, if_pos hq, quote_eq, utf8_cons_of_ascii (by decide), List.cons_append,
      countOutside_quote, utf8_append, List.append_assoc, Bool.not_false, countOutside_escaped]
    exact countOutside_quote true rest
  · have hord : ∀ c ∈ s, Ordinary sep c := needsQuotes_eq_false_iff.mp (by simpa using hq)
    rw [fieldText, if_neg hq]
    refine countOutside_plain (fun x hx => ?_) false rest
    have hmark := unmarked_of_mem_utf8 hsep hord hx
    refine ⟨hmark.ne_quote, ?_⟩
    rintro rfl
    rcases hs with rfl | hs
    · exact hmark.ne_delimiter rfl
    · exact hs hx

/-- On a line, the separator counts once between two fields, and what occurs in no field not at
all. -/
theorem countUnquoted_lineText (hsep : Separates sep) {fields : List (List Char)}
    (hf : fields ≠ []) (hd : delimiter = sep ∨ ∀ s ∈ fields, delimiter ∉ utf8 s) :
    countUnquoted delimiter (utf8 (lineText sep fields)) =
      if delimiter = sep then fields.length - 1 else 0 := by
  unfold countUnquoted
  induction fields with
  | nil => exact absurd rfl hf
  | cons s fields ih =>
      have hs : delimiter = sep ∨ delimiter ∉ utf8 s := hd.imp_right fun h => h s (by simp)
      cases fields with
      | nil =>
          have hone := countOutside_fieldText hsep hs []
          rw [List.append_nil] at hone
          rw [lineText_singleton, hone]
          simp [countOutside]
      | cons t fields =>
          have hrest := ih (List.cons_ne_nil t fields)
            (hd.imp_right fun h s' hs' => h s' (List.mem_cons_of_mem _ hs'))
          rw [lineText_cons_cons, utf8_append, utf8_cons_of_ascii hsep.ascii,
            countOutside_fieldText hsep hs]
          by_cases he : delimiter = sep
          · subst he
            rw [countOutside_delimiter hsep.quote_ne, hrest, if_pos rfl, if_pos rfl]
            rfl
          · rw [countOutside_ordinary hsep.quote_ne (Ne.symm he), hrest, if_neg he, if_neg he]

/-! ## The first line -/

theorem mem_fieldText {s : List Char} {c : Char} (hc : c ∈ s) : c ∈ fieldText sep s := by
  unfold fieldText
  split
  · have hesc : c ∈ s.flatMap escaped := by
      refine List.mem_flatMap.mpr ⟨c, hc, ?_⟩
      unfold escaped
      split
      · simp [*]
      · simp
    rw [quote_eq]
    simp [hesc]
  · exact hc

theorem mem_of_mem_fieldText {s : List Char} {c : Char} (hc : c ∈ fieldText sep s)
    (hq : c ≠ '"') : c ∈ s := by
  unfold fieldText at hc
  split at hc
  · have hesc : c ∈ s.flatMap escaped := by
      simpa [quote_eq, hq] using hc
    obtain ⟨d, hd, hcd⟩ := List.mem_flatMap.mp hesc
    unfold escaped at hcd
    split at hcd
    · simp [hq] at hcd
    · rwa [List.mem_singleton.mp hcd]
  · exact hc

theorem mem_lineText {fields : List (List Char)} {s : List Char} (hs : s ∈ fields) {c : Char}
    (hc : c ∈ s) : c ∈ lineText sep fields := by
  induction fields with
  | nil => cases hs
  | cons t fields ih =>
      cases fields with
      | nil =>
          obtain rfl := List.mem_singleton.mp hs
          simpa using mem_fieldText hc
      | cons u fields =>
          rw [lineText_cons_cons]
          rcases List.mem_cons.mp hs with rfl | hs
          · exact List.mem_append_left _ (mem_fieldText hc)
          · exact List.mem_append_right _ (List.mem_cons_of_mem _ (ih hs))

theorem mem_of_mem_lineText {fields : List (List Char)} {c : Char}
    (hc : c ∈ lineText sep fields) (hq : c ≠ '"') (hsep : c ≠ sep) : ∃ s ∈ fields, c ∈ s := by
  induction fields with
  | nil => cases hc
  | cons s fields ih =>
      cases fields with
      | nil =>
          have hs : c ∈ fieldText sep s := by simpa using hc
          exact ⟨s, by simp, mem_of_mem_fieldText hs hq⟩
      | cons t fields =>
          rw [lineText_cons_cons] at hc
          rcases List.mem_append.mp hc with hc | hc
          · exact ⟨s, by simp, mem_of_mem_fieldText hc hq⟩
          · rcases List.mem_cons.mp hc with rfl | hc
            · exact absurd rfl hsep
            · obtain ⟨u, hu, hcu⟩ := ih hc
              exact ⟨u, List.mem_cons_of_mem _ hu, hcu⟩

/-- The first record of a file is the first line that is looked at, when it is not blank and has
no line feed. -/
theorem sample_fileText (hsep : sep ≠ '\n') {header : List (List Char)}
    (hw : ∃ s ∈ header, ∃ c ∈ s, isBlank c = false) (hl : ∀ s ∈ header, '\n' ∉ s)
    (rows : List (List (List Char))) :
    ∃ rest, sample (utf8 (fileText sep (header :: rows))) = utf8 (lineText sep header) :: rest := by
  obtain ⟨s, hs, c, hc, hblank⟩ := hw
  have hmem : c ∈ lineText sep header := mem_lineText hs hc
  have hline : lineText sep header ≠ [] := List.ne_nil_of_mem hmem
  have hfile : utf8 (fileText sep (header :: rows)) =
      utf8 (lineText sep header) ++ ('\n' : UInt8) :: utf8 (fileText sep rows) := by
    show utf8 (recordText sep header ++ fileText sep rows) = _
    rw [recordText_eq, if_neg hline, utf8_append, utf8_append, List.append_assoc]
    rfl
  have hfeed : ('\n' : UInt8) ∉ utf8 (lineText sep header) := by
    rw [toUInt8_mem_utf8 (by decide)]
    intro h
    obtain ⟨u, hu, hfu⟩ := mem_of_mem_lineText h (by decide) (Ne.symm hsep)
    exact hl u hu hfu
  have hwritten : isWritten (utf8 (lineText sep header)) = true := by
    rw [isWritten, symbols_utf8, List.any_map, List.any_eq_true]
    exact ⟨c, hmem, by simp [hblank]⟩
  rw [sample, lines, hfile, List.splitOn_append_cons_self_of_not_mem hfeed,
    List.filter_cons_of_pos hwritten]
  exact ⟨_, rfl⟩

/-! ## Choosing -/

/-- The best of some fits is one of them. -/
theorem exists_bestFit {fits : List Fit} (h : fits ≠ []) : ∃ f ∈ fits, bestFit fits = some f := by
  induction fits using List.reverseRecOn with
  | nil => exact absurd rfl h
  | append_singleton fits f ih =>
      rw [bestFit, List.foldl_append, ← bestFit, List.foldl_cons, List.foldl_nil]
      by_cases hf : fits = []
      · subst hf
        exact ⟨f, by simp, rfl⟩
      · obtain ⟨g, hg, hbest⟩ := ih hf
        rw [hbest]
        by_cases hbetter : f.better g = true
        · exact ⟨f, by simp, by simp [hbetter]⟩
        · exact ⟨g, by simp [hg], by simp [hbetter]⟩

theorem fit?_eq_none_iff {first : List UInt8} {rest : List (List UInt8)} :
    fit? (first :: rest) delimiter = none ↔ countUnquoted delimiter first = 0 := by
  rw [fit?, List.map_cons]
  cases countUnquoted delimiter first <;> simp

theorem delimiter_of_fit? {lines : List (List UInt8)} {f : Fit}
    (h : fit? lines delimiter = some f) : f.delimiter = delimiter := by
  unfold fit? at h
  split at h
  · cases h
  · cases h
  · rw [← Option.some.inj h]

/-- A candidate that is the only one on the first line is chosen, whatever the other lines are. -/
theorem detect?_of_only {s first : List UInt8} {rest : List (List UInt8)}
    (hs : sample s = first :: rest) (hd : delimiter ∈ candidates)
    (hpos : countUnquoted delimiter first ≠ 0)
    (honly : ∀ x ∈ candidates, x ≠ delimiter → countUnquoted x first = 0) :
    detect? s = some delimiter := by
  have hfit : ∀ f ∈ candidates.filterMap (fit? (first :: rest)), f.delimiter = delimiter := by
    intro f hf
    obtain ⟨x, hx, hfx⟩ := List.mem_filterMap.mp hf
    rw [delimiter_of_fit? hfx]
    by_contra hne
    rw [fit?_eq_none_iff.mpr (honly x hx hne)] at hfx
    cases hfx
  have hne : candidates.filterMap (fit? (first :: rest)) ≠ [] := by
    obtain ⟨f, hf⟩ := Option.ne_none_iff_exists'.mp fun h => hpos (fit?_eq_none_iff.mp h)
    exact List.ne_nil_of_mem (List.mem_filterMap.mpr ⟨delimiter, hd, hf⟩)
  obtain ⟨f, hf, hbest⟩ := exists_bestFit hne
  rw [detect?, hs]
  simp only [hbest, hfit f hf]

theorem ne_quote_of_mem_candidates (hd : delimiter ∈ candidates) : delimiter ≠ '"' := by
  rintro rfl
  revert hd
  decide

/-- A file is found to have the separator that it was written with, when its first record has two
fields or more, not all of them blank, and no line feed or other candidate in them. -/
theorem detect?_fileText (hsep : Separates sep) (hmem : (sep : UInt8) ∈ candidates)
    {header : List (List Char)} (h2 : 2 ≤ header.length)
    (hw : ∃ s ∈ header, ∃ c ∈ s, isBlank c = false) (hl : ∀ s ∈ header, '\n' ∉ s)
    (ho : ∀ s ∈ header, ∀ d ∈ candidates, d ≠ sep → d ∉ utf8 s)
    (rows : List (List (List Char))) :
    detect? (utf8 (fileText sep (header :: rows))) = some (sep : UInt8) := by
  have hne : header ≠ [] := by
    rintro rfl
    cases h2
  obtain ⟨rest, hsample⟩ := sample_fileText hsep.ne_lineFeed hw hl rows
  refine detect?_of_only hsample hmem ?_ fun d hd hds => ?_
  · rw [countUnquoted_lineText hsep hne (.inl rfl), if_pos rfl]
    omega
  · rw [countUnquoted_lineText hsep hne (.inr fun s hs => ho s hs d hd hds), if_neg hds]

end Tabular.Delimited
