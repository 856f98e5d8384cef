import Mathlib.Data.List.Basic
import Mathlib.Data.List.TakeWhile

set_option autoImplicit false

/-! # Patterns for the beginning of a text

A pattern describes texts (`Pattern.Matches`). A matcher that backtracks tries the ways in which a
text can begin with one of them in the order of its preferences (`Pattern.tries`): of two
alternatives the first one, an option rather than nothing, and as many characters of a class as
there are. It finds every such beginning (`Pattern.mem_tries_iff`) and takes the first one
(`Pattern.first?`), which need not be the longest one (`Pattern.Longest`). Some texts of a pattern
are still texts of it when they are cut (`Pattern.CutAt`).
-/

namespace Tabular.Text

/-- A pattern for the beginning of a text. -/
inductive Pattern where
  /-- One character of a class. -/
  | char (among : Char → Bool)
  /-- Any number of characters of a class. -/
  | many (among : Char → Bool)
  /-- A word as it stands. -/
  | word (letters : List Char)
  /-- One pattern behind the other. -/
  | seq (front back : Pattern)
  /-- One of two patterns, the first one if it can be. -/
  | either (first second : Pattern)
  /-- The pattern if it can be, or nothing. -/
  | optional (inner : Pattern)

namespace Pattern

/-- The texts that a pattern describes. -/
def Matches : Pattern → List Char → Prop
  | .char among, s => ∃ c, among c = true ∧ s = [c]
  | .many among, s => ∀ c ∈ s, among c = true
  | .word letters, s => s = letters
  | .seq front back, s => ∃ u v, front.Matches u ∧ back.Matches v ∧ s = u ++ v
  | .either first second, s => first.Matches s ∨ second.Matches s
  | .optional inner, s => inner.Matches s ∨ s = []

/-- The ways to take characters of a class, the longest run first. -/
def triesMany (among : Char → Bool) : List Char → List (List Char × List Char)
  | [] => [([], [])]
  | c :: rest =>
    if among c then (triesMany among rest).map (fun m => (c :: m.1, m.2)) ++ [([], c :: rest)]
    else [([], c :: rest)]

/-- The ways in which a text can begin with a pattern, in the order in which they are tried: what
is found, and what is left. -/
def tries : Pattern → List Char → List (List Char × List Char)
  | .char _, [] => []
  | .char among, c :: rest => if among c then [([c], rest)] else []
  | .many among, text => triesMany among text
  | .word letters, text =>
    if letters.isPrefixOf text then [(letters, text.drop letters.length)] else []
  | .seq front back, text =>
    (front.tries text).flatMap fun m => (back.tries m.2).map fun n => (m.1 ++ n.1, n.2)
  | .either first second, text => first.tries text ++ second.tries text
  | .optional inner, text => inner.tries text ++ [([], text)]

/-- What is found at the start of a text by what is tried first. -/
def first? (P : Pattern) (text : List Char) : Option (List Char) :=
  (P.tries text).head?.map Prod.fst

/-- The longest beginning of a text that a pattern describes. -/
structure Longest (P : Pattern) (text found : List Char) : Prop where
  isMatch : P.Matches found
  begins : found <+: text
  longest : ∀ other, P.Matches other → other <+: text → other.length ≤ found.length

section

variable {P Q : Pattern} {among : Char → Bool} {letters s text : List Char} {c : Char}

theorem matches_char : (char among).Matches s ↔ ∃ c, among c = true ∧ s = [c] := .rfl

theorem matches_many : (many among).Matches s ↔ ∀ c ∈ s, among c = true := .rfl

theorem matches_word : (word letters).Matches s ↔ s = letters := .rfl

theorem matches_seq :
    (seq P Q).Matches s ↔ ∃ u v, P.Matches u ∧ Q.Matches v ∧ s = u ++ v := .rfl

theorem matches_either : (either P Q).Matches s ↔ P.Matches s ∨ Q.Matches s := .rfl

theorem matches_optional : (optional P).Matches s ↔ P.Matches s ∨ s = [] := .rfl

theorem tries_char_nil : (char among).tries [] = [] := rfl

theorem tries_char_cons :
    (char among).tries (c :: text) = if among c then [([c], text)] else [] := rfl

theorem tries_many : (many among).tries text = triesMany among text := rfl

theorem tries_word :
    (word letters).tries text =
      if letters.isPrefixOf text then [(letters, text.drop letters.length)] else [] := rfl

theorem tries_seq :
    (seq P Q).tries text =
      (P.tries text).flatMap fun m => (Q.tries m.2).map fun n => (m.1 ++ n.1, n.2) := rfl

theorem tries_either : (either P Q).tries text = P.tries text ++ Q.tries text := rfl

theorem tries_optional : (optional P).tries text = P.tries text ++ [([], text)] := rfl

theorem first?_eq_head? : P.first? text = (P.tries text).head?.map Prod.fst := rfl

end

/-! ## All ways are tried -/

theorem mem_triesMany_iff {among : Char → Bool} {text u r : List Char} :
    (u, r) ∈ triesMany among text ↔ (∀ c ∈ u, among c = true) ∧ text = u ++ r := by
  induction text generalizing u with
  | nil =>
      simp only [triesMany, List.mem_singleton, Prod.mk.injEq]
      constructor
      · rintro ⟨rfl, rfl⟩
        simp
      · rintro ⟨-, h⟩
        have hnil := List.append_eq_nil_iff.mp h.symm
        exact hnil
  | cons c rest ih =>
      have hstop : (u, r) = ([], c :: rest) → (∀ d ∈ u, among d = true) ∧ c :: rest = u ++ r := by
        rintro ⟨⟩
        simp
      rw [triesMany]
      split
      · rename_i hc
        rw [List.mem_append, List.mem_singleton, List.mem_map]
        constructor
        · rintro (⟨⟨v, w⟩, hv, heq⟩ | h)
          · obtain ⟨rfl, rfl⟩ := Prod.mk.inj heq
            obtain ⟨hall, rfl⟩ := ih.mp hv
            exact ⟨List.forall_mem_cons.mpr ⟨hc, hall⟩, rfl⟩
          · exact hstop h
        · rintro ⟨hall, h⟩
          cases u with
          | nil => exact .inr (by rw [h]; rfl)
          | cons d v =>
              obtain ⟨rfl, rfl⟩ := List.cons.inj h
              exact .inl ⟨(v, r), ih.mpr ⟨(List.forall_mem_cons.mp hall).2, rfl⟩, rfl⟩
      · rename_i hc
        rw [List.mem_singleton]
        refine ⟨hstop, ?_⟩
        rintro ⟨hall, h⟩
        cases u with
        | nil => rw [h]; rfl
        | cons d v =>
            obtain ⟨rfl, rfl⟩ := List.cons.inj h
            exact absurd (List.forall_mem_cons.mp hall).1 hc

theorem mem_tries_char_iff {among : Char → Bool} {text u r : List Char} :
    (u, r) ∈ (char among).tries text ↔ (char among).Matches u ∧ text = u ++ r := by
  cases text with
  | nil =>
      simp only [tries_char_nil, matches_char, List.not_mem_nil, false_iff]
      rintro ⟨⟨c, -, rfl⟩, h⟩
      cases h
  | cons c rest =>
      simp only [tries_char_cons, matches_char]
      constructor
      · intro h
        split at h
        · rename_i hc
          obtain ⟨rfl, rfl⟩ := Prod.mk.inj (List.mem_singleton.mp h)
          exact ⟨⟨c, hc, rfl⟩, rfl⟩
        · cases h
      · rintro ⟨⟨d, hd, rfl⟩, h⟩
        obtain ⟨rfl, rfl⟩ := List.cons.inj h
        rw [if_pos hd]
        exact List.mem_singleton.mpr rfl

theorem mem_tries_word_iff {letters text u r : List Char} :
    (u, r) ∈ (word letters).tries text ↔ (word letters).Matches u ∧ text = u ++ r := by
  simp only [tries_word, matches_word, List.isPrefixOf_iff_prefix]
  constructor
  · intro h
    split at h
    · rename_i hp
      obtain ⟨rfl, rfl⟩ := Prod.mk.inj (List.mem_singleton.mp h)
      exact ⟨rfl, (List.prefix_iff_eq_append.mp hp).symm⟩
    · cases h
  · rintro ⟨rfl, rfl⟩
    rw [if_pos (List.prefix_append _ _), List.drop_left, List.mem_singleton]

/-- The ways that are tried are all the ways in which a text can begin with the pattern. -/
theorem mem_tries_iff {P : Pattern} {text u r : List Char} :
    (u, r) ∈ P.tries text ↔ P.Matches u ∧ text = u ++ r := by
  induction P generalizing text u r with
  | char among => exact mem_tries_char_iff
  | many among => exact mem_triesMany_iff
  | word letters => exact mem_tries_word_iff
  | seq front back ihf ihb =>
      simp only [tries_seq, matches_seq, List.mem_flatMap, List.mem_map]
      constructor
      · rintro ⟨⟨v, s⟩, hv, ⟨w, t⟩, hw, heq⟩
        obtain ⟨rfl, rfl⟩ := Prod.mk.inj heq
        obtain ⟨hmv, rfl⟩ := ihf.mp hv
        obtain ⟨hmw, rfl⟩ := ihb.mp hw
        exact ⟨⟨v, w, hmv, hmw, rfl⟩, (List.append_assoc v w t).symm⟩
      · -- The back is tried on what the front leaves of the text, `w ++ r`.
        rintro ⟨⟨v, w, hmv, hmw, rfl⟩, rfl⟩
        exact ⟨(v, w ++ r), ihf.mpr ⟨hmv, List.append_assoc v w r⟩, (w, r), ihb.mpr ⟨hmw, rfl⟩, rfl⟩
  | either first second ihf ihs =>
      simp only [tries_either, matches_either, List.mem_append, ihf, ihs, or_and_right]
  | optional inner ih =>
      simp only [tries_optional, matches_optional, List.mem_append, ih, or_and_right, List.mem_singleton,
        Prod.mk.injEq]
      refine or_congr_right ?_
      constructor
      · rintro ⟨rfl, rfl⟩
        exact ⟨rfl, rfl⟩
      · rintro ⟨rfl, rfl⟩
        exact ⟨rfl, rfl⟩

theorem of_first?_eq_some {P : Pattern} {text u : List Char} (h : P.first? text = some u) :
    P.Matches u ∧ u <+: text := by
  obtain ⟨⟨v, r⟩, hm, rfl⟩ := Option.map_eq_some_iff.mp h
  obtain ⟨hv, rfl⟩ := mem_tries_iff.mp (List.mem_of_head? hm)
  exact ⟨hv, List.prefix_append v r⟩

theorem first?_eq_none_iff {P : Pattern} {text : List Char} :
    P.first? text = none ↔ ∀ u, P.Matches u → ¬ u <+: text := by
  rw [first?_eq_head?, Option.map_eq_none_iff, List.head?_eq_none_iff, List.eq_nil_iff_forall_not_mem]
  constructor
  · rintro h u hu ⟨r, rfl⟩
    exact h (u, r) (mem_tries_iff.mpr ⟨hu, rfl⟩)
  · rintro h ⟨u, r⟩ hm
    obtain ⟨hu, rfl⟩ := mem_tries_iff.mp hm
    exact h u hu (List.prefix_append u r)

/-- There is one longest beginning. -/
theorem Longest.unique {P : Pattern} {text u v : List Char} (hu : P.Longest text u)
    (hv : P.Longest text v) : u = v := by
  have hlen : u.length = v.length :=
    Nat.le_antisymm (hv.longest u hu.isMatch hu.begins) (hu.longest v hv.isMatch hv.begins)
  exact (List.prefix_of_prefix_length_le hu.begins hv.begins hlen.le).eq_of_length hlen

/-! ## What is tried first -/

theorem first?_char_cons (among : Char → Bool) (c : Char) (rest : List Char) :
    (char among).first? (c :: rest) = if among c then some [c] else none := by
  rw [first?_eq_head?, tries_char_cons]
  split <;> rfl

theorem first?_many (among : Char → Bool) (text : List Char) :
    (many among).first? text = some (text.takeWhile among) := by
  rw [first?_eq_head?, tries_many]
  induction text with
  | nil => rfl
  | cons c rest ih =>
      obtain ⟨m, hm, hfst⟩ := Option.map_eq_some_iff.mp ih
      rw [triesMany]
      by_cases hc : among c = true
      · rw [if_pos hc, List.head?_append, List.head?_map, hm, List.takeWhile_cons_of_pos hc, ← hfst]
        rfl
      · rw [if_neg hc, List.takeWhile_cons_of_neg hc]
        rfl

theorem first?_word (letters text : List Char) :
    (word letters).first? text = if letters.isPrefixOf text then some letters else none := by
  rw [first?_eq_head?, tries_word]
  split <;> rfl

theorem first?_word_append (letters rest : List Char) :
    (word letters).first? (letters ++ rest) = some letters := by
  rw [first?_word, if_pos (List.isPrefixOf_iff_prefix.mpr (List.prefix_append _ _))]

theorem first?_either (P Q : Pattern) (text : List Char) :
    (either P Q).first? text = (P.first? text).or (Q.first? text) := by
  simp only [first?_eq_head?, tries_either, List.head?_append]
  cases (P.tries text).head? <;> rfl

theorem first?_optional (P : Pattern) (text : List Char) :
    (optional P).first? text = some ((P.first? text).getD []) := by
  simp only [first?_eq_head?, tries_optional, List.head?_append]
  cases (P.tries text).head? <;> rfl

/-- If the back is found behind what is tried first, nothing else is tried. -/
theorem first?_seq {P Q : Pattern} {text u v : List Char} (hP : P.first? text = some u)
    (hQ : Q.first? (text.drop u.length) = some v) : (seq P Q).first? text = some (u ++ v) := by
  obtain ⟨⟨u', r⟩, hm, rfl⟩ := Option.map_eq_some_iff.mp hP
  obtain ⟨-, rfl⟩ := mem_tries_iff.mp (List.mem_of_head? hm)
  obtain ⟨more, hmore⟩ := List.head?_eq_some_iff.mp hm
  rw [List.drop_left] at hQ
  obtain ⟨n, hn, rfl⟩ := Option.map_eq_some_iff.mp hQ
  rw [first?_eq_head?, tries_seq, hmore, List.flatMap_cons, List.head?_append, List.head?_map, hn]
  rfl

/-- Nothing is found if the back is found behind no way to find the front. -/
theorem first?_seq_eq_none {P Q : Pattern} {text : List Char}
    (h : ∀ u r, text = u ++ r → P.Matches u → Q.first? r = none) :
    (seq P Q).first? text = none := by
  rw [first?_eq_none_iff]
  rintro _ ⟨u, v, hu, hv, rfl⟩ ⟨r, rfl⟩
  have hnone := h u (v ++ r) (List.append_assoc u v r) hu
  exact first?_eq_none_iff.mp hnone v hv (List.prefix_append v r)

theorem first?_seq_eq_none_of_front {P : Pattern} (Q : Pattern) {text : List Char}
    (h : P.first? text = none) : (seq P Q).first? text = none := by
  rw [first?_eq_none_iff] at h
  refine first?_seq_eq_none ?_
  rintro u r rfl hu
  exact absurd (List.prefix_append u r) (h u hu)

/-- If there is one way to find the front, the back is found behind it or nothing is. -/
theorem first?_seq_of_one_way {P Q : Pattern} {text u r : List Char} (h : P.tries text = [(u, r)]) :
    (seq P Q).first? text = (Q.first? r).map (u ++ ·) := by
  rw [first?_eq_head?, tries_seq, h, List.flatMap_singleton, List.head?_map, first?_eq_head?]
  cases (Q.tries r).head? <;> rfl

theorem first?_seq_char (among : Char → Bool) (Q : Pattern) (c : Char) (rest : List Char) :
    (seq (char among) Q).first? (c :: rest) =
      if among c then (Q.first? rest).map (c :: ·) else none := by
  split
  · rename_i hc
    exact first?_seq_of_one_way (by rw [tries_char_cons, if_pos hc])
  · rename_i hc
    exact first?_seq_eq_none_of_front Q (by rw [first?_char_cons, if_neg hc])

theorem first?_seq_word (letters : List Char) (Q : Pattern) (rest : List Char) :
    (seq (word letters) Q).first? (letters ++ rest) = (Q.first? rest).map (letters ++ ·) := by
  refine first?_seq_of_one_way ?_
  rw [tries_word, if_pos (List.isPrefixOf_iff_prefix.mpr (List.prefix_append _ _)), List.drop_left]

/-- What is tried first is not always the longest. -/
example : (either (word ['a']) (word ['a', 'b'])).first? ['a', 'b'] = some ['a'] := rfl

/-! ## Cuts -/

/-- Cut behind a character `c`, a text of the pattern is still one. -/
def CutAt (P : Pattern) (c : Char) : Prop := ∀ u v, P.Matches (u ++ c :: v) → P.Matches (u ++ [c])

section

variable {P Q : Pattern} {c : Char}

theorem cutAt_of_not_mem (h : ∀ s, P.Matches s → c ∉ s) : P.CutAt c :=
  fun _ _ hm => absurd (List.mem_append_right _ List.mem_cons_self) (h _ hm)

theorem cutAt_char (among : Char → Bool) : (char among).CutAt c := by
  rintro u v ⟨d, hd, h⟩
  cases u with
  | nil =>
      obtain ⟨rfl, -⟩ := List.cons.inj h
      exact ⟨c, hd, rfl⟩
  | cons a u => simp at h

theorem cutAt_many (among : Char → Bool) : (many among).CutAt c := by
  intro u v h
  obtain ⟨hu, hv⟩ := List.forall_mem_append.mp h
  obtain ⟨hc, -⟩ := List.forall_mem_cons.mp hv
  exact List.forall_mem_append.mpr ⟨hu, List.forall_mem_singleton.mpr hc⟩

theorem CutAt.either (hP : P.CutAt c) (hQ : Q.CutAt c) : (either P Q).CutAt c :=
  fun u v => Or.imp (hP u v) (hQ u v)

theorem CutAt.optional (hP : P.CutAt c) : (optional P).CutAt c := by
  rintro u v (h | h)
  · exact .inl (hP u v h)
  · simp at h

/-- Where the front can be cut, the back has to be able to be missing. -/
theorem CutAt.seq (hP : P.CutAt c) (hQ : Q.CutAt c)
    (hnil : ∀ s, P.Matches s → c ∈ s → Q.Matches []) : (seq P Q).CutAt c := by
  rintro u v ⟨front, back, hf, hb, h⟩
  rcases List.append_eq_append_iff.mp h with ⟨w, rfl, hw⟩ | ⟨w, rfl, rfl⟩
  · cases w with
    | nil =>
        -- The cut is behind the first character of the back.
        rw [List.nil_append] at hw
        rw [List.append_nil] at hf
        rw [← hw] at hb
        exact ⟨u, [c], hf, hQ [] v hb, rfl⟩
    | cons d w =>
        obtain ⟨rfl, -⟩ := List.cons.inj hw
        have hmem : c ∈ u ++ c :: w := List.mem_append_right _ List.mem_cons_self
        exact ⟨u ++ [c], [], hP u w hf, hnil _ hf hmem, (List.append_nil _).symm⟩
  · exact ⟨front, w ++ [c], hf, hQ w v hb, List.append_assoc _ _ _⟩

theorem CutAt.behind (hQ : Q.CutAt c) (h : ∀ s, P.Matches s → c ∉ s) :
    (Pattern.seq P Q).CutAt c :=
  (cutAt_of_not_mem h).seq hQ fun s hs hc => absurd hc (h s hs)

/-- Where a text of the pattern can be cut, the longest beginning goes on with what is appended: a
longer text of the pattern has only characters of the longest beginning and of the appended text. -/
theorem Longest.mem_or_mem {text found other t : List Char} (h : P.Longest text found)
    (hP : P.CutAt c) (ho : P.Matches other) (hp : other <+: text ++ t) (hc : c ∈ other) :
    c ∈ found ∨ c ∈ t := by
  obtain ⟨u, v, rfl⟩ := List.append_of_mem hc
  obtain ⟨r, hr⟩ := hp
  rw [List.append_assoc, List.cons_append] at hr
  have hfound (hu : u ++ [c] <+: text) : c ∈ found := by
    have hlen := h.longest _ (hP u v ho) hu
    have hprefix := List.prefix_of_prefix_length_le hu h.begins hlen
    exact hprefix.subset (List.mem_append_right _ (List.mem_singleton.mpr rfl))
  rcases List.append_eq_append_iff.mp hr with ⟨w, rfl, hw⟩ | ⟨w, rfl, rfl⟩
  · cases w with
    | nil =>
        rw [List.nil_append] at hw
        exact .inr (by rw [← hw]; exact List.mem_cons_self)
    | cons d w =>
        obtain ⟨rfl, -⟩ := List.cons.inj hw
        exact .inl (hfound ⟨w, by rw [List.append_assoc, List.singleton_append]⟩)
  · exact .inr (List.mem_append_right _ List.mem_cons_self)

end

end Pattern

end Tabular.Text
