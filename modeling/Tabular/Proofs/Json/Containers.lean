import Mathlib.Data.List.Forall2
import Tabular.Proofs.Json.Reads

set_option autoImplicit false

/-! # Containers as they are written and read

Both ways of writing a value (`Spacing`) give a container as its parts between brackets, with
blanks before each part and before the closing bracket (`inside`). A loop over items reads parts
that are read one by one (`readItems_inside`), and a loop over members goes from state to state
(`readMembers_inside`). So arrays and objects are read as their parts are (`reads_array`,
`reads_object`), and a value is read back from its text when its numbers keep their digits and its
containers are not too deep inside each other (`reads_of_fits`).
-/

namespace Tabular.Json

/-! ## Parts between brackets -/

/-- The parts after the first, and the closing bracket. -/
def moreParts (before last : List Char) (close : Char) : List (List Char) → List Char
  | [] => last ++ [close]
  | part :: parts => ',' :: (before ++ (part ++ moreParts before last close parts))

/-- The parts after the opening bracket, with the blanks that stand before each part and those that
stand before the closing bracket. -/
def inside (before last : List Char) (close : Char) : List (List Char) → List Char
  | [] => [close]
  | part :: parts => before ++ (part ++ moreParts before last close parts)

/-- A member of an object, with the blanks that stand after its colon. -/
def memberText (gap : List Char) (key : String) (value : List Char) : List Char :=
  stringText key ++ ':' :: (gap ++ value)

theorem compactItems_eq (items : List Json) :
    compactItems items = moreParts [] [] ']' (items.map compact) := by
  induction items with
  | nil => rfl
  | cons item items ih => simp [compactItems, moreParts, ih]

theorem prettyItems_eq (level : Nat) (items : List Json) :
    prettyItems level items =
      moreParts (newLine (level + 1)) (newLine level) ']' (items.map (pretty (level + 1))) := by
  induction items with
  | nil => rfl
  | cons item items ih => simp [prettyItems, moreParts, ih]

theorem compactMembers_eq (members : List (String × Json)) :
    compactMembers members =
      moreParts [] [] '\x7d' (members.map fun m => memberText [] m.1 (compact m.2)) := by
  induction members with
  | nil => rfl
  | cons m members ih => simp [compactMembers, moreParts, memberText, ih]

theorem prettyMembers_eq (level : Nat) (members : List (String × Json)) :
    prettyMembers level members =
      moreParts (newLine (level + 1)) (newLine level) '\x7d'
        (members.map fun m => memberText [' '] m.1 (pretty (level + 1) m.2)) := by
  induction members with
  | nil => rfl
  | cons m members ih => simp [prettyMembers, moreParts, memberText, ih]

/-- The ways of writing a value: without any blanks, or with each part of a container on its
line. -/
inductive Spacing where
  | compact
  | lines

namespace Spacing

/-- The text of a value that starts at a level of indentation. -/
def text : Spacing → Nat → Json → List Char
  | .compact, _, j => Json.compact j
  | .lines, level, j => pretty level j

/-- The blanks before a part of a container. -/
def gap : Spacing → Nat → List Char
  | .compact, _ => []
  | .lines, level => newLine level

def colonGap : Spacing → List Char
  | .compact => []
  | .lines => [' ']

theorem blank_gap (w : Spacing) (level : Nat) : Blank (w.gap level) := by
  cases w with
  | compact => exact blank_nil
  | lines => exact blank_newLine level

theorem blank_colonGap (w : Spacing) : Blank w.colonGap := by
  cases w <;> simp [colonGap, Blank, isBlankSymbol]

@[simp] theorem text_compact (level : Nat) : Spacing.compact.text level = Json.compact := rfl

@[simp] theorem text_lines (level : Nat) : Spacing.lines.text level = pretty level := rfl

theorem text_array (w : Spacing) (level : Nat) (items : List Json) :
    w.text level (.array items) =
      '[' :: inside (w.gap (level + 1)) (w.gap level) ']' (items.map (w.text (level + 1))) := by
  cases w with
  | compact =>
      cases items with
      | nil => rfl
      | cons item items => simp [gap, inside, Json.compact, compactItems_eq]
  | lines =>
      cases items with
      | nil => rfl
      | cons item items => simp [gap, inside, pretty, prettyItems_eq]

theorem text_object (w : Spacing) (level : Nat) (members : List (String × Json)) :
    w.text level (.object members) =
      '\x7b' :: inside (w.gap (level + 1)) (w.gap level) '\x7d'
        (members.map fun m => memberText w.colonGap m.1 (w.text (level + 1) m.2)) := by
  cases w with
  | compact =>
      cases members with
      | nil => rfl
      | cons m members =>
          simp [gap, colonGap, inside, Json.compact, compactMembers_eq, memberText]
  | lines =>
      cases members with
      | nil => rfl
      | cons m members =>
          simp [gap, colonGap, inside, pretty, prettyMembers_eq, memberText]

end Spacing

/-! ## Loops over parts -/

theorem endsNumber_moreParts (before : List Char) {last : List Char} (hl : Blank last)
    {close : Char} (hc : close ∈ [',', ']', '\x7d']) (parts : List (List Char)) (rest : Input) :
    EndsNumber ((moreParts before last close parts).map some ++ rest) := by
  cases parts with
  | nil =>
      rw [moreParts, List.map_append, List.append_assoc]
      exact endsNumber_append hl hc rest
  | cons part parts => exact endsNumber_cons (.inr List.mem_cons_self) _

theorem length_lt_length_moreParts (before last : List Char) (close : Char)
    (parts : List (List Char)) : parts.length < (moreParts before last close parts).length := by
  induction parts with
  | nil => simp [moreParts]
  | cons part parts ih =>
      simp only [moreParts, List.length_cons, List.length_append]
      omega

/-- The parts between brackets are long enough to bound a loop over them. -/
theorem exists_inside_eq_cons (before last : List Char) (close : Char) {part : List Char}
    (hp : part ≠ []) (parts : List (List Char)) (rest : Input) :
    ∃ x bound, (inside before last close (part :: parts)).map some ++ rest = x :: bound ∧
      parts.length < bound.length := by
  have hlen := length_lt_length_moreParts before last close parts
  have hpos := List.length_pos_of_ne_nil hp
  have hl : ((inside before last close (part :: parts)).map some ++ rest).length =
      before.length + (part.length + (moreParts before last close parts).length) +
        rest.length := by
    simp [inside, Nat.add_assoc]
  obtain ⟨x, bound, hx⟩ := List.exists_cons_of_length_pos
    (show 0 < ((inside before last close (part :: parts)).map some ++ rest).length by omega)
  refine ⟨x, bound, hx, ?_⟩
  rw [hx, List.length_cons] at hl
  omega

section Items

variable {α : Type} {item : Input → Except Fault (α × Input)}

theorem readItems_end (x : Text.Symbol) (bound : Input) (first : Bool) {gap : List Char}
    (hg : Blank gap) (rest : Input) :
    readItems item (x :: bound) first (gap.map some ++ some ']' :: rest) = .ok ([], rest) := by
  simp only [readItems, skipBlanks_append hg (c := ']') rfl]

/-- An item at the start of the loop, and the loop behind it. -/
theorem readItems_start (x : Text.Symbol) (bound : Input) {gap : List Char} (hg : Blank gap)
    {c : Char} (hc : isBlankSymbol (some c) = false) (hb : c ≠ ']') (s : Input) :
    readItems item (x :: bound) true (gap.map some ++ some c :: s) =
      item (some c :: s) >>= fun first => readItems item bound false first.2 >>= fun more =>
        .ok (first.1 :: more.1, more.2) := by
  simp only [readItems, skipBlanks_append hg hc]
  split
  · simp_all
  · simp_all
  · rename_i heq
    cases heq
    rfl

/-- Behind a comma the loop goes on as at its start. -/
theorem readItems_comma (x : Text.Symbol) (bound : Input) {gap gap' : List Char} (hg : Blank gap)
    (hg' : Blank gap') {c : Char} (hc : isBlankSymbol (some c) = false) (hb : c ≠ ']')
    (s : Input) :
    readItems item (x :: bound) false
        (gap.map some ++ some ',' :: (gap'.map some ++ some c :: s)) =
      readItems item (x :: bound) true (gap'.map some ++ some c :: s) := by
  rw [readItems_start x bound hg' hc hb]
  simp only [readItems, skipBlanks_append hg (c := ',') rfl]
  split
  · simp_all
  · simp_all
  · rename_i heq
    cases heq
    rw [if_neg Bool.false_ne_true, if_pos rfl, skipBlanks_append hg' hc]
    split
    · simp_all
    · simp_all
    · rfl

theorem readItems_first (x : Text.Symbol) {bound : Input} {gap : List Char} (hg : Blank gap)
    {text : List Char} {a : α} (hread : Reads item text a) {s rest : Input} (hs : EndsNumber s)
    {as : List α} (hmore : readItems item bound false s = .ok (as, rest)) :
    readItems item (x :: bound) true (gap.map some ++ (text.map some ++ s)) =
      .ok (a :: as, rest) := by
  obtain ⟨c, tail, rfl, hc, hb⟩ := hread.starts
  have hitem := hread.reads [] blank_nil s hs
  rw [List.map_nil, List.nil_append, List.map_cons, List.cons_append] at hitem
  rw [List.map_cons, List.cons_append, readItems_start x bound hg hc hb, hitem]
  simp only [hmore, bind, Except.bind]

theorem readItems_next (x : Text.Symbol) {bound : Input} {gap : List Char} (hg : Blank gap)
    {text : List Char} {a : α} (hread : Reads item text a) {s rest : Input} (hs : EndsNumber s)
    {as : List α} (hmore : readItems item bound false s = .ok (as, rest)) :
    readItems item (x :: bound) false (some ',' :: (gap.map some ++ (text.map some ++ s))) =
      .ok (a :: as, rest) := by
  have hfirst := readItems_first x hg hread hs hmore
  obtain ⟨c, tail, rfl, hc, hb⟩ := hread.starts
  rw [List.map_cons, List.cons_append] at hfirst ⊢
  rw [← hfirst]
  exact readItems_comma x bound blank_nil hg hc hb _

theorem readItems_moreParts {before last : List Char} (hb : Blank before) (hl : Blank last)
    {texts : List (List Char)} {as : List α} (h : List.Forall₂ (Reads item) texts as)
    {bound : Input} (hbound : texts.length < bound.length) (rest : Input) :
    readItems item bound false ((moreParts before last ']' texts).map some ++ rest) =
      .ok (as, rest) := by
  induction h generalizing bound with
  | nil =>
      obtain ⟨x, bound, rfl⟩ := List.exists_cons_of_length_pos hbound
      rw [moreParts, List.map_append, List.append_assoc]
      exact readItems_end x bound false hl rest
  | cons hread hmore ih =>
      obtain ⟨x, bound, rfl⟩ := List.exists_cons_of_length_pos (Nat.zero_lt_of_lt hbound)
      rw [moreParts, List.map_cons, List.map_append, List.map_append, List.cons_append,
        List.append_assoc, List.append_assoc]
      exact readItems_next x hb hread (endsNumber_moreParts before hl (by simp) _ rest)
        (ih (by simpa using hbound))

/-- The items of an array are read one by one. -/
theorem readItems_inside {before last : List Char} (hb : Blank before) (hl : Blank last)
    {texts : List (List Char)} {as : List α} (h : List.Forall₂ (Reads item) texts as)
    (rest : Input) :
    readItems item ((inside before last ']' texts).map some ++ rest) true
      ((inside before last ']' texts).map some ++ rest) = .ok (as, rest) := by
  cases h with
  | nil => exact readItems_end _ _ true blank_nil rest
  | @cons text a texts as hread hmore =>
      obtain ⟨c, tail, htext, -, -⟩ := hread.starts
      obtain ⟨x, bound, hbound, hfit⟩ :=
        exists_inside_eq_cons before last ']' (by simp [htext] : text ≠ []) texts rest
      -- The input bounds the loop, and all but its first symbol are left for the other items.
      conv_lhs => arg 2; rw [hbound]
      rw [inside, List.map_append, List.map_append, List.append_assoc, List.append_assoc]
      exact readItems_first x hb hread (endsNumber_moreParts before hl (by simp) texts rest)
        (readItems_moreParts hb hl hmore hfit rest)

end Items

section Members

variable {σ : Type} {member : String → σ → Input → Except Fault (σ × Input)}

/-- What is left to read behind the key of a member. -/
def behindKey (gap value : List Char) (rest : Input) : Input :=
  some ':' :: (gap.map some ++ (value.map some ++ rest))

/-- The members take the reader from one state to another. -/
inductive Gathers (member : String → σ → Input → Except Fault (σ × Input)) (gap : List Char) :
    List (String × List Char) → σ → σ → Prop
  | nil (state : σ) : Gathers member gap [] state state
  | cons {key : String} {value : List Char} {members : List (String × List Char)}
      {state next last : σ}
      (h : ∀ rest, EndsNumber rest →
        member key state (behindKey gap value rest) = .ok (next, rest))
      (hmore : Gathers member gap members next last) :
      Gathers member gap ((key, value) :: members) state last

theorem map_memberText (gap : List Char) (key : String) (value : List Char) (rest : Input) :
    (memberText gap key value).map some ++ rest =
      some '"' :: stringTail key (behindKey gap value rest) := by
  rw [memberText, List.map_append, List.append_assoc, map_stringText, behindKey]
  simp

theorem readColon_append {gap : List Char} (hg : Blank gap) (s : Input) :
    readColon (gap.map some ++ some ':' :: s) = .ok s := by
  simp only [readColon, skipBlanks_append hg (c := ':') rfl]

theorem readColon_behindKey (gap value : List Char) (rest : Input) :
    readColon (behindKey gap value rest) = .ok (gap.map some ++ (value.map some ++ rest)) :=
  readColon_append blank_nil _

theorem readMembers_end (x : Text.Symbol) (bound : Input) (first : Bool) (state : σ)
    {gap : List Char} (hg : Blank gap) (rest : Input) :
    readMembers readString member (x :: bound) first state
      (gap.map some ++ some '\x7d' :: rest) = .ok (state, rest) := by
  simp only [readMembers, skipBlanks_append hg (c := '\x7d') rfl]

/-- A member at the start of the loop, and the loop behind it. -/
theorem readMembers_start (x : Text.Symbol) (bound : Input) (state : σ) {gap : List Char}
    (hg : Blank gap) (s : Input) :
    readMembers readString member (x :: bound) true state (gap.map some ++ some '"' :: s) =
      readString s >>= fun key => member key.1 state key.2 >>= fun next =>
        readMembers readString member bound false next.1 next.2 := by
  simp only [readMembers, skipBlanks_append hg (c := '"') rfl]
  rfl

/-- Behind a comma the loop goes on as at its start. -/
theorem readMembers_comma (x : Text.Symbol) (bound : Input) (state : σ) {gap gap' : List Char}
    (hg : Blank gap) (hg' : Blank gap') (s : Input) :
    readMembers readString member (x :: bound) false state
        (gap.map some ++ some ',' :: (gap'.map some ++ some '"' :: s)) =
      readMembers readString member (x :: bound) true state (gap'.map some ++ some '"' :: s) := by
  rw [readMembers_start x bound state hg']
  simp only [readMembers, skipBlanks_append hg (c := ',') rfl]
  split
  · simp_all
  · simp_all
  · rename_i heq
    cases heq
    rw [if_neg Bool.false_ne_true, if_pos rfl, skipBlanks_append hg' rfl]
    rfl

theorem readMembers_first (x : Text.Symbol) {bound : Input} {before gap : List Char}
    (hb : Blank before) {key : String} {value : List Char} {state next last : σ}
    {s rest : Input} (hmember : member key state (behindKey gap value s) = .ok (next, s))
    (hmore : readMembers readString member bound false next s = .ok (last, rest)) :
    readMembers readString member (x :: bound) true state
      (before.map some ++ ((memberText gap key value).map some ++ s)) = .ok (last, rest) := by
  rw [map_memberText, readMembers_start x bound state hb, readString_stringTail]
  simp only [hmember, hmore, bind, Except.bind]

theorem readMembers_next (x : Text.Symbol) {bound : Input} {before gap : List Char}
    (hb : Blank before) {key : String} {value : List Char} {state next last : σ}
    {s rest : Input} (hmember : member key state (behindKey gap value s) = .ok (next, s))
    (hmore : readMembers readString member bound false next s = .ok (last, rest)) :
    readMembers readString member (x :: bound) false state
      (some ',' :: (before.map some ++ ((memberText gap key value).map some ++ s))) =
        .ok (last, rest) := by
  rw [← readMembers_first x hb hmember hmore, map_memberText]
  exact readMembers_comma x bound state blank_nil hb _

theorem readMembers_moreParts {before last gap : List Char} (hb : Blank before) (hl : Blank last)
    {members : List (String × List Char)} {state final : σ}
    (h : Gathers member gap members state final) {bound : Input}
    (hbound : members.length < bound.length) (rest : Input) :
    readMembers readString member bound false state
      ((moreParts before last '\x7d' (members.map fun m => memberText gap m.1 m.2)).map some ++
        rest) = .ok (final, rest) := by
  induction h generalizing bound with
  | nil state =>
      obtain ⟨x, bound, rfl⟩ := List.exists_cons_of_length_pos hbound
      rw [List.map_nil, moreParts, List.map_append, List.append_assoc]
      exact readMembers_end x bound false state hl rest
  | cons hmember hmore ih =>
      obtain ⟨x, bound, rfl⟩ := List.exists_cons_of_length_pos (Nat.zero_lt_of_lt hbound)
      rw [List.map_cons, moreParts, List.map_cons, List.map_append, List.map_append,
        List.cons_append, List.append_assoc, List.append_assoc]
      exact readMembers_next x hb (hmember _ (endsNumber_moreParts before hl (by simp) _ rest))
        (ih (by simpa using hbound))

/-- The members of an object are read one by one, each in the state that those before it leave. -/
theorem readMembers_inside {before last gap : List Char} (hb : Blank before) (hl : Blank last)
    {members : List (String × List Char)} {state final : σ}
    (h : Gathers member gap members state final) (rest : Input) :
    readMembers readString member
      ((inside before last '\x7d' (members.map fun m => memberText gap m.1 m.2)).map some ++ rest)
      true state
      ((inside before last '\x7d' (members.map fun m => memberText gap m.1 m.2)).map some ++ rest) =
        .ok (final, rest) := by
  cases h with
  | nil => exact readMembers_end _ _ true state blank_nil rest
  | @cons key value members _ next _ hmember hmore =>
      obtain ⟨x, bound, hbound, hfit⟩ := exists_inside_eq_cons before last '\x7d'
        (by simp [memberText, stringText] : memberText gap key value ≠ [])
        (members.map fun m => memberText gap m.1 m.2) rest
      rw [List.length_map] at hfit
      -- The input bounds the loop, and all but its first symbol are left for the other members.
      rw [List.map_cons]
      conv_lhs => arg 3; rw [hbound]
      rw [inside, List.map_append, List.map_append, List.append_assoc, List.append_assoc]
      exact readMembers_first x hb
        (hmember _ (endsNumber_moreParts before hl (by simp) _ rest))
        (readMembers_moreParts hb hl hmore hfit rest)

end Members

/-! ## Texts of containers -/

section Containers

variable {w : Spacing} {level depth : Nat}

/-- A reader that passes over blanks reads a text from its bracket on. -/
theorem reads_of_bracket {α : Type} {read : Input → Except Fault (α × Input)} {c : Char}
    (hc : isBlankSymbol (some c) = false) (hb : c ≠ ']') {inner : List Char} {a : α}
    (h : ∀ s rest, skipBlanks s = some c :: (inner.map some ++ rest) → read s = .ok (a, rest)) :
    Reads read (c :: inner) a where
  starts := ⟨c, inner, rfl, hc, hb⟩
  reads := fun _ hg rest _ => h _ rest (skipBlanks_append hg hc (inner.map some ++ rest))

theorem readItems_texts {α : Type} {item : Input → Except Fault (α × Input)} {items : List Json}
    {as : List α} (h : List.Forall₂ (fun j a => Reads item (w.text (level + 1) j) a) items as)
    (rest : Input) :
    let s := (inside (w.gap (level + 1)) (w.gap level) ']'
      (items.map (w.text (level + 1)))).map some ++ rest
    readItems item s true s = .ok (as, rest) :=
  readItems_inside (w.blank_gap _) (w.blank_gap _) (List.forall₂_map_left_iff.mpr h) rest

theorem readMembers_texts {σ : Type} {member : String → σ → Input → Except Fault (σ × Input)}
    {members : List (String × Json)} {start final : σ}
    (h : Gathers member w.colonGap (members.map fun m => (m.1, w.text (level + 1) m.2)) start
      final) (rest : Input) :
    let s := (inside (w.gap (level + 1)) (w.gap level) '\x7d'
      (members.map fun m => memberText w.colonGap m.1 (w.text (level + 1) m.2))).map some ++ rest
    readMembers readString member s true start s = .ok (final, rest) := by
  have hread := readMembers_inside (w.blank_gap (level + 1)) (w.blank_gap level) h rest
  rw [List.map_map] at hread
  exact hread

/-- An array is read when its items are. -/
theorem reads_array {α : Type} {item : Nat → Input → Except Fault (α × Input)}
    {items : List Json} {as : List α}
    (h : List.Forall₂ (fun j a => Reads (item depth) (w.text (level + 1) j) a) items as) :
    Reads (readArray (depth + 1) item) (w.text level (.array items)) as := by
  rw [Spacing.text_array]
  refine reads_of_bracket rfl (by decide) fun s rest hs => ?_
  rw [readArray, hs]
  exact readItems_texts h rest

/-- An object is read when its members are. -/
theorem reads_object {σ : Type} {member : Nat → String → σ → Input → Except Fault (σ × Input)}
    {members : List (String × Json)} {start final : σ}
    (h : Gathers (member depth) w.colonGap (members.map fun m => (m.1, w.text (level + 1) m.2))
      start final) :
    Reads (readObject (depth + 1) member start) (w.text level (.object members)) final := by
  rw [Spacing.text_object]
  refine reads_of_bracket rfl (by decide) fun s rest hs => ?_
  rw [readObject, hs]
  exact readMembers_texts h rest

/-! ## Values that are read back -/

/-- At most `depth` containers inside each other, and no numbers but those that keep their
digits. -/
inductive Fits : (depth : Nat) → Json → Prop
  | null (depth : Nat) : Fits depth .null
  | bool (depth : Nat) (b : Bool) : Fits depth (.bool b)
  | string (depth : Nat) (s : String) : Fits depth (.string s)
  | number (depth : Nat) (negative : Bool) {rank : Nat} (hr : rank < infiniteRank)
      (hk : KeepsDigits rank) : Fits depth (.number (.decimal (.finite negative rank hr)))
  | array {depth : Nat} {items : List Json} (h : ∀ j ∈ items, Fits depth j) :
      Fits (depth + 1) (.array items)
  | object {depth : Nat} {members : List (String × Json)} (h : ∀ m ∈ members, Fits depth m.2) :
      Fits (depth + 1) (.object members)

theorem readValue_array {s tail rest : Input} (hs : skipBlanks s = some '[' :: tail)
    {items : List Json} (h : readItems (readValue depth) tail true tail = .ok (items, rest)) :
    readValue (depth + 1) s = .ok (.array items, rest) := by
  simp only [readValue, hs, h, bind, Except.bind]

/-- Reads a member of an object from its colon on, after the members before it. -/
def appendMember (depth : Nat) (key : String) (members : List (String × Json)) (s : Input) :
    Except Fault (List (String × Json) × Input) := do
  let rest ← readColon s
  let (value, rest) ← readValue depth rest
  .ok (members ++ [(key, value)], rest)

theorem readValue_object {s tail rest : Input} (hs : skipBlanks s = some '\x7b' :: tail)
    {members : List (String × Json)}
    (h : readMembers readString (appendMember depth) tail true [] tail = .ok (members, rest)) :
    readValue (depth + 1) s = .ok (.object members, rest) := by
  have hobject : readValue (depth + 1) s =
      (readMembers readString (appendMember depth) tail true [] tail).bind fun found =>
        .ok (.object found.1, found.2) := by
    simp only [readValue, hs]
    rfl
  rw [hobject, h]
  rfl

theorem appendMember_eq {key : String} {value : Json}
    (h : Reads (readValue depth) (w.text level value) value) (members : List (String × Json))
    {rest : Input} (hr : EndsNumber rest) :
    appendMember depth key members (behindKey w.colonGap (w.text level value) rest) =
      .ok (members ++ [(key, value)], rest) := by
  have hread := h.reads _ w.blank_colonGap rest hr
  rw [appendMember, readColon_behindKey]
  simp only [hread, bind, Except.bind]

theorem gathers_append {members : List (String × Json)}
    (h : ∀ m ∈ members, Reads (readValue depth) (w.text level m.2) m.2)
    (before : List (String × Json)) :
    Gathers (appendMember depth) w.colonGap (members.map fun m => (m.1, w.text level m.2))
      before (before ++ members) := by
  induction members generalizing before with
  | nil =>
      rw [List.append_nil]
      exact .nil before
  | cons m members ih =>
      have hmore := ih (fun m hm => h m (List.mem_cons_of_mem _ hm)) (before ++ [m])
      rw [List.append_assoc, List.singleton_append] at hmore
      exact .cons (fun rest hr => appendMember_eq (h m List.mem_cons_self) before hr) hmore

/-- A value is read back from its text. -/
theorem reads_of_fits {j : Json} (h : Fits depth j) :
    Reads (readValue depth) (w.text level j) j := by
  induction h generalizing level with
  | null depth => cases w <;> exact reads_null depth
  | bool depth b =>
      cases b
      · cases w <;> exact reads_false depth
      · cases w <;> exact reads_true depth
  | string depth s => cases w <;> exact reads_string s depth
  | number depth negative hr hk =>
      obtain ⟨q, hq, hkeep, hread⟩ := exists_reads_number negative hr
      cases hkeep hk
      cases w <;> exact hread depth
  | @array depth items _ ih =>
      have hitems : List.Forall₂ (fun j a => Reads (readValue depth) (w.text (level + 1) j) a)
          items items := List.forall₂_same.mpr fun j hj => ih j hj
      rw [Spacing.text_array]
      refine reads_of_bracket rfl (by decide) fun s rest hs => ?_
      exact readValue_array hs (readItems_texts hitems rest)
  | @object depth members _ ih =>
      have hmembers : Gathers (appendMember depth) w.colonGap
          (members.map fun m => (m.1, w.text (level + 1) m.2)) [] members :=
        gathers_append (fun m hm => ih m hm) []
      rw [Spacing.text_object]
      refine reads_of_bracket rfl (by decide) fun s rest hs => ?_
      exact readValue_object hs (readMembers_texts hmembers rest)

end Containers

end Tabular.Json
