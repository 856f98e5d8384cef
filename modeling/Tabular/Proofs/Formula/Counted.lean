import Mathlib.Data.List.Infix
import Tabular.Formula.Text
import Tabular.Proofs.Number.Integer

set_option autoImplicit false

/-! # Texts cut by a count

`LEFT` and `RIGHT` cut the text of a column at a count, which is written in front of anything else
in their argument (`TextFunction.Cuts`). Any integer of 64 bits but zero is taken as it is. So a
count and its opposite part the text between the two functions, and so do a count and what it leaves
of the text (`TextFunction.left_right_partition`).

An integer that does not fit is no count, and then one character is kept. A larger count keeps at
least as much only as long as it can be read (`TextFunction.larger_count_keeps_iff`).
-/

namespace Tabular

/-! ## Counts -/

/-- The count of an argument that starts with an integer other than zero. -/
theorem TextFormula.count_of_startsWithInteger {f : TextFormula} {argument : String} {m : Int}
    (ha : f.argument = some argument) (hm : StartsWithInteger argument.toList m) (h0 : m ≠ 0) :
    f.count = if FitsWord m then m else 1 := by
  have hread : (f.argument.bind fun s => integer? s.toList) =
      if FitsWord m then some m else none := by
    rw [ha, Option.bind_some, integer?_of_startsWithInteger hm]
  by_cases hfits : FitsWord m
  · rw [if_pos hfits] at hread ⊢
    simp only [count, hread, if_neg h0]
  · rw [if_neg hfits] at hread ⊢
    simp only [count, hread]

/-! ## Parts of a text -/

namespace Text

theorem leftmost_natCast (n : Nat) (s : List Char) : leftmost n s = s.take n := by
  rw [leftmost, Int.toNat_natCast]

theorem rightmost_natCast (n : Nat) (s : List Char) : rightmost n s = s.drop (s.length - n) := by
  rw [rightmost, if_pos (Int.natCast_nonneg n), Int.toNat_natCast]

theorem leftmost_of_neg {m : Int} (h : m < 0) (s : List Char) : leftmost m s = [] := by
  rw [leftmost, Int.toNat_of_nonpos (by omega), List.take_zero]

theorem rightmost_of_neg {m : Int} (h : m < 0) (s : List Char) :
    rightmost m s = s.drop m.natAbs := by
  rw [rightmost, if_neg (by omega)]

/-- The last characters of a text are among those of a larger count, or the text has no more. -/
theorem drop_suffix_drop_iff {s : List Char} {m n : Nat} :
    s.drop (s.length - m) <:+ s.drop (s.length - n) ↔ m ≤ n ∨ s.length ≤ n := by
  constructor
  · intro h
    have hlength := h.length_le
    rw [List.length_drop, List.length_drop] at hlength
    omega
  · intro h
    have hlength : (s.drop (s.length - m)).length ≤ (s.drop (s.length - n)).length := by
      rw [List.length_drop, List.length_drop]
      omega
    exact List.suffix_of_suffix_length_le (List.drop_suffix _ s) (List.drop_suffix _ s) hlength

end Text

namespace TextFunction

/-- With this argument, the function keeps this part of the text in a column. -/
def Keeps (f : TextFunction) (column argument : String) (r : Record) (part : List Char) : Prop :=
  ∀ columns, (⟨f, column, columns, some argument⟩ : TextFormula).evaluate r =
    .ok (.text (String.ofList part))

/-- There is one such part. -/
theorem Keeps.unique {f : TextFunction} {column argument : String} {r : Record} {p q : List Char}
    (hp : f.Keeps column argument r p) (hq : f.Keeps column argument r q) : p = q := by
  have h := (hp []).symm.trans (hq [])
  rw [Except.ok.injEq, Cell.text.injEq] at h
  simpa using congrArg String.toList h

/-- The functions that cut a text at a count, and how they cut it. -/
inductive Cuts : TextFunction → (Int → List Char → List Char) → Prop
  | left : Cuts .left Text.leftmost
  | right : Cuts .right Text.rightmost

variable (r : Record) (column : String) {argument : String} {m : Int}

/-- The text is cut at the integer of the argument, or at one if the integer does not fit. -/
theorem keeps_of_cuts {f : TextFunction} {cut : Int → List Char → List Char} (hf : Cuts f cut)
    (hm : StartsWithInteger argument.toList m) (h0 : m ≠ 0) :
    f.Keeps column argument r (cut (if FitsWord m then m else 1) (r.text column).toList) := by
  intro columns
  have hcount := TextFormula.count_of_startsWithInteger
    (f := ⟨f, column, columns, some argument⟩) rfl hm h0
  rw [← hcount]
  cases hf with
  | left | right => rfl

theorem keeps_of_fits {f : TextFunction} {cut : Int → List Char → List Char} (hf : Cuts f cut)
    (hm : StartsWithInteger argument.toList m) (h0 : m ≠ 0) (hfits : FitsWord m) :
    f.Keeps column argument r (cut m (r.text column).toList) := by
  have h := keeps_of_cuts r column hf hm h0
  rwa [if_pos hfits] at h

theorem keeps_toString {f : TextFunction} {cut : Int → List Char → List Char} (hf : Cuts f cut)
    (h0 : m ≠ 0) (hfits : FitsWord m) :
    f.Keeps column (toString m) r (cut m (r.text column).toList) :=
  keeps_of_fits r column hf (startsWithInteger_toString m) h0 hfits

/-- The least count keeps nothing of a text that has fewer characters than it drops. -/
theorem Cuts.least {f : TextFunction} {cut : Int → List Char → List Char} (hf : Cuts f cut)
    {s : List Char} (h : s.length < 2 ^ 63) : cut (-2 ^ 63) s = [] := by
  cases hf with
  | left => exact Text.leftmost_of_neg (by omega) s
  | right =>
      rw [Text.rightmost_of_neg (by omega), List.drop_eq_nil_iff]
      omega

/-! ## A count and its opposite -/

/-- A text in two parts each way: its first characters and the rest, and its last characters with
what stands in front of them. -/
structure Parts (s : List Char) (n : Nat) (first rest front last : List Char) : Prop where
  first_rest : first ++ rest = s
  front_last : n < s.length → front ++ last = s
  last_suffix : last <:+ s
  length_first : first.length = min n s.length
  length_last : last.length = min n s.length

theorem parts_take_drop (s : List Char) (n : Nat) :
    Parts s n (s.take n) (s.drop n) (s.take (s.length - n)) (s.drop (s.length - n)) where
  first_rest := List.take_append_drop n s
  front_last _ := List.take_append_drop (s.length - n) s
  last_suffix := List.drop_suffix _ s
  length_first := List.length_take
  length_last := by
    rw [List.length_drop]
    omega

/-- The parts that a count and its opposite keep. -/
theorem keeps_count {n : Nat} (h1 : 1 ≤ n) (hn : n < 2 ^ 63) :
    left.Keeps column (toString (n : Int)) r ((r.text column).toList.take n) ∧
      right.Keeps column (toString (n : Int)) r
        ((r.text column).toList.drop ((r.text column).toList.length - n)) ∧
      left.Keeps column (toString (-n : Int)) r [] ∧
      right.Keeps column (toString (-n : Int)) r ((r.text column).toList.drop n) := by
  have hfits : FitsWord n := fitsWord_natCast_iff.mpr hn
  have hfits' : FitsWord (-n) := fitsWord_of_natAbs_lt (by omega)
  have hleft := keeps_toString r column .left (by omega) hfits
  have hright := keeps_toString r column .right (by omega) hfits
  have hleft' := keeps_toString r column .left (by omega) hfits'
  have hright' := keeps_toString r column .right (by omega) hfits'
  rw [Text.leftmost_natCast] at hleft
  rw [Text.rightmost_natCast] at hright
  rw [Text.leftmost_of_neg (by omega)] at hleft'
  rw [Text.rightmost_of_neg (by omega), Int.natAbs_neg, Int.natAbs_natCast] at hright'
  exact ⟨hleft, hright, hleft', hright'⟩

/-- Counts of up to `2 ^ 63 - 1` part the text of a column, with the opposite count and with what
they leave of the text. An argument that is read as a count other than zero is taken as the count,
whatever else is in it; the least one keeps nothing. -/
theorem left_right_partition (r : Record) (column : String)
    (h : (r.text column).toList.length < 2 ^ 63) :
    (∀ n : Nat, 1 ≤ n → n ≤ 2 ^ 63 - 1 → ∃ first rest front last : List Char,
      Parts (r.text column).toList n first rest front last ∧
      left.Keeps column (toString (n : Int)) r first ∧
      right.Keeps column (toString (-n : Int)) r rest ∧
      (n < (r.text column).toList.length →
        left.Keeps column (toString ((r.text column).toList.length - n : Int)) r front) ∧
      right.Keeps column (toString (n : Int)) r last ∧
      left.Keeps column (toString (-n : Int)) r []) ∧
    (∀ (argument : String) (m : Int), integer? argument.toList = some m ↔
      StartsWithInteger argument.toList m ∧ FitsWord m) ∧
    ∀ (argument : String) (m : Int), integer? argument.toList = some m → m ≠ 0 →
      ∀ f ∈ [left, right], ∃ part, f.Keeps column argument r part ∧
        f.Keeps column (toString m) r part ∧ (m = -2 ^ 63 → part = []) := by
  refine ⟨fun n h1 hn => ?_, fun argument m => integer?_eq_some_iff,
    fun argument m hread h0 f hf => ?_⟩
  · obtain ⟨hleft, hright, hleft', hright'⟩ := keeps_count r column h1 (by omega)
    refine ⟨_, _, _, _, parts_take_drop _ n, hleft, hright', fun hlt => ?_, hright, hleft'⟩
    rw [← Int.natCast_sub hlt.le]
    exact (keeps_count r column (by omega) (by omega)).1
  · obtain ⟨hm, hfits⟩ := integer?_eq_some_iff.mp hread
    obtain ⟨cut, hcut⟩ : ∃ cut, Cuts f cut := by
      simp only [List.mem_cons, List.not_mem_nil, or_false] at hf
      rcases hf with rfl | rfl
      · exact ⟨_, .left⟩
      · exact ⟨_, .right⟩
    -- The argument and the text of its count are read as the same count.
    refine ⟨_, keeps_of_fits r column hcut hm h0 hfits, keeps_toString r column hcut h0 hfits, ?_⟩
    rintro rfl
    exact hcut.least h

/-- A count of two behind a blank and a sign, with a zero in front of it and a word behind it. -/
theorem left_right_partition_of_name :
    let r : Record := Record.ofList [("a", .text "Zoë😀")]
    (r.text "a").toList.length < 2 ^ 63 ∧ integer? " +02 chars".toList = some 2 ∧
      ∃ first rest front last : List Char, Parts "Zoë😀".toList 2 first rest front last ∧
        left.Keeps "a" " +02 chars" r first ∧ right.Keeps "a" "-2" r rest := by
  intro r
  have hlength : (r.text "a").toList.length < 2 ^ 63 := by decide +kernel
  have hread : integer? " +02 chars".toList = some 2 := by decide +kernel
  obtain ⟨hparts, -, harguments⟩ := left_right_partition r "a" hlength
  obtain ⟨first, rest, front, last, hsplit, hfirst, hrest, -⟩ := hparts 2 (by decide) (by decide)
  obtain ⟨part, hkept, hsame, -⟩ := harguments _ 2 hread (by decide) left (by simp)
  obtain rfl : part = first := hsame.unique hfirst
  exact ⟨hlength, hread, part, rest, front, last, hsplit, hkept, hrest⟩

/-! ## A larger count -/

/-- The count that the digits of a positive number are read as. -/
def readCount (n : Nat) : Nat := if n < 2 ^ 63 then n else 1

theorem readCount_eq (n : Nat) : (if FitsWord n then (n : Int) else 1) = readCount n := by
  rw [readCount]
  by_cases hn : n < 2 ^ 63
  · rw [if_pos hn, if_pos (fitsWord_natCast_iff.mpr hn)]
  · rw [if_neg hn, if_neg (mt fitsWord_natCast_iff.mp hn)]
    rfl

theorem keeps_of_digits (hd : ∀ c ∈ argument.toList, c.isDigit = true)
    (h1 : 1 ≤ Number.digitsValue argument.toList) :
    left.Keeps column argument r
        ((r.text column).toList.take (readCount (Number.digitsValue argument.toList))) ∧
      right.Keeps column argument r ((r.text column).toList.drop
        ((r.text column).toList.length - readCount (Number.digitsValue argument.toList))) := by
  have hne : argument.toList ≠ [] := by
    intro h
    rw [h] at h1
    cases h1
  have hm : StartsWithInteger argument.toList (Number.digitsValue argument.toList) :=
    startsWithInteger_signed .none hd hne
  rw [← Text.leftmost_natCast, ← Text.rightmost_natCast, ← readCount_eq]
  exact ⟨keeps_of_cuts r column .left hm (by omega), keeps_of_cuts r column .right hm (by omega)⟩

/-- Of two positive numbers in digits, both functions keep at least as much for the larger one
exactly if it is read as a count; unless the smaller one is not read either, is one, or there is no
more than one character to be kept. -/
theorem larger_count_keeps_iff (r : Record) (column : String) {x y : String}
    (hx : ∀ c ∈ x.toList, c.isDigit = true) (hy : ∀ c ∈ y.toList, c.isDigit = true)
    (h1 : 1 ≤ Number.digitsValue x.toList)
    (hxy : Number.digitsValue x.toList ≤ Number.digitsValue y.toList) :
    ∃ first more last further : List Char,
      left.Keeps column x r first ∧ left.Keeps column y r more ∧
      right.Keeps column x r last ∧ right.Keeps column y r further ∧
      (first <+: more ↔ Number.digitsValue y.toList < 2 ^ 63 ∨
        2 ^ 63 ≤ Number.digitsValue x.toList ∨ Number.digitsValue x.toList = 1 ∨
        (r.text column).toList.length ≤ 1) ∧
      (last <:+ further ↔ first <+: more) := by
  obtain ⟨hfirst, hlast⟩ := keeps_of_digits r column hx h1
  obtain ⟨hmore, hfurther⟩ := keeps_of_digits r column hy (h1.trans hxy)
  refine ⟨_, _, _, _, hfirst, hmore, hlast, hfurther, ?_, ?_⟩
  · rw [List.take_isPrefix_take]
    unfold readCount
    split <;> split <;> omega
  · rw [List.take_isPrefix_take, Text.drop_suffix_drop_iff]

/-- The largest count, for which zeros in front do not matter. -/
theorem larger_count_keeps_iff_of_largest :
    let r : Record := Record.ofList [("a", .text "AB")]
    let x := "002"
    let y := "9223372036854775807"
    (∀ c ∈ x.toList, c.isDigit = true) ∧ (∀ c ∈ y.toList, c.isDigit = true) ∧
      1 ≤ Number.digitsValue x.toList ∧
      Number.digitsValue x.toList ≤ Number.digitsValue y.toList ∧
      ∃ first more last further : List Char,
        left.Keeps "a" x r first ∧ left.Keeps "a" y r more ∧
        right.Keeps "a" x r last ∧ right.Keeps "a" y r further ∧
        first <+: more ∧ last <:+ further := by
  intro r x y
  have hx : ∀ c ∈ x.toList, c.isDigit = true := List.all_eq_true.mp (by decide)
  have hy : ∀ c ∈ y.toList, c.isDigit = true := List.all_eq_true.mp (by decide)
  have h1 : 1 ≤ Number.digitsValue x.toList := by decide
  have hxy : Number.digitsValue x.toList ≤ Number.digitsValue y.toList := by decide +kernel
  have hread : Number.digitsValue y.toList < 2 ^ 63 := by decide +kernel
  obtain ⟨first, more, last, further, hfirst, hmore, hlast, hfurther, hleft, hright⟩ :=
    larger_count_keeps_iff r "a" hx hy h1 hxy
  have hprefix : first <+: more := hleft.mpr (.inl hread)
  exact ⟨hx, hy, h1, hxy, first, more, last, further, hfirst, hmore, hlast, hfurther, hprefix,
    hright.mpr hprefix⟩

/-- The number behind the largest count keeps one character, where two keeps two. -/
theorem larger_count_keeps_less :
    let r : Record := Record.ofList [("a", .text "AB")]
    let x := "2"
    let y := "9223372036854775808"
    (∀ c ∈ x.toList, c.isDigit = true) ∧ (∀ c ∈ y.toList, c.isDigit = true) ∧
      Number.digitsValue x.toList = 2 ∧ Number.digitsValue y.toList = 2 ^ 63 ∧
      left.Keeps "a" x r ['A', 'B'] ∧ left.Keeps "a" y r ['A'] ∧
      right.Keeps "a" x r ['A', 'B'] ∧ right.Keeps "a" y r ['B'] ∧
      ¬ ['A', 'B'] <+: ['A'] ∧ ¬ ['A', 'B'] <:+ ['B'] := by
  intro r x y
  have hx : ∀ c ∈ x.toList, c.isDigit = true := List.all_eq_true.mp (by decide)
  have hy : ∀ c ∈ y.toList, c.isDigit = true := List.all_eq_true.mp (by decide)
  have htwo : Number.digitsValue x.toList = 2 := by decide +kernel
  have hlarge : Number.digitsValue y.toList = 2 ^ 63 := by decide +kernel
  obtain ⟨hleft, hright⟩ := keeps_of_digits r "a" hx (by omega)
  obtain ⟨hleft', hright'⟩ := keeps_of_digits r "a" hy (by omega)
  rw [htwo] at hleft hright
  rw [hlarge] at hleft' hright'
  have htext : (r.text "a").toList = ['A', 'B'] := by decide
  rw [htext] at hleft hright hleft' hright'
  exact ⟨hx, hy, htwo, hlarge, hleft, hleft', hright, hright', by decide, by decide⟩

end TextFunction

end Tabular
