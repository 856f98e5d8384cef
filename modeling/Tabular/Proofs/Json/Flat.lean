import Mathlib.Data.List.Basic
import Tabular.Proofs.Json.Scalars
import Tabular.Proofs.Json.Table
import Tabular.Proofs.Json.Tagged

set_option autoImplicit false

/-! # Flat tables read both ways

A flat table is an array of objects whose members are `null`, numbers or strings that are not empty
(`FlatTable`, a grammar of texts). A stored table and a foreign one are read by the same loops, and
differ in what they make of a value. The values of a flat table are the ones that are the same cell
both ways (`leaves_readValue`), so both readings agree on them and go on with the same rest
(`Agree`); by the loops they agree on the members of an object, on its records and on the whole
text (`Table.ofStored_eq_ofForeign`), failures included.
-/

namespace Tabular

open Json

namespace Json

open Text

/-! ## Texts of flat tables -/

/-- A value that is no container, no boolean and no empty string. -/
inductive FlatValue : List Char → Prop
  | null : FlatValue ['n', 'u', 'l', 'l']
  | number {text : List Char} (h : NumberText text) : FlatValue text
  | string {chars : List (List Char)} (h : ∀ text ∈ chars, CharText text) (hne : chars ≠ []) :
      FlatValue ('"' :: (chars.flatten ++ ['"']))

inductive FlatMember : List Char → Prop
  | intro {key : List (List Char)} {gap gap' value : List Char} (hk : ∀ text ∈ key, CharText text)
      (hg : Blank gap) (hg' : Blank gap') (hv : FlatValue value) :
      FlatMember ('"' :: (key.flatten ++ '"' :: (gap ++ ':' :: (gap' ++ value))))

/-- Parts with commas between them and blanks around them. -/
inductive Parts (part : List Char → Prop) : List Char → Prop
  | one {gap text gap' : List Char} (hg : Blank gap) (h : part text) (hg' : Blank gap') :
      Parts part (gap ++ (text ++ gap'))
  | cons {gap text gap' more : List Char} (hg : Blank gap) (h : part text) (hg' : Blank gap')
      (hmore : Parts part more) : Parts part (gap ++ (text ++ (gap' ++ ',' :: more)))

/-- The first of the parts stands behind blanks. -/
theorem Parts.exists_first {part : List Char → Prop} {text : List Char} (h : Parts part text) :
    ∃ gap first behind, Blank gap ∧ part first ∧ text = gap ++ (first ++ behind) := by
  cases h with
  | one hg h _ => exact ⟨_, _, _, hg, h, rfl⟩
  | cons hg h _ _ => exact ⟨_, _, _, hg, h, rfl⟩

inductive FlatObject : List Char → Prop
  | empty {gap : List Char} (hg : Blank gap) : FlatObject ('\x7b' :: (gap ++ ['\x7d']))
  | members {text : List Char} (h : Parts FlatMember text) :
      FlatObject ('\x7b' :: (text ++ ['\x7d']))

theorem FlatObject.exists_eq_cons {text : List Char} (h : FlatObject text) :
    ∃ inner, text = '\x7b' :: inner := by
  cases h with
  | empty _ => exact ⟨_, rfl⟩
  | members _ => exact ⟨_, rfl⟩

/-- An array of such objects, which is not empty. -/
inductive FlatTable : List Char → Prop
  | intro {gap text gap' : List Char} (hg : Blank gap) (h : Parts FlatObject text)
      (hg' : Blank gap') : FlatTable (gap ++ '[' :: (text ++ ']' :: gap'))

/-! ## Results that agree -/

section Agree

variable {α β : Type} {P : α → Prop} {Q : β → Prop} {rest tail : Input}

/-- Two results that are the same and leave the rest to be read. -/
structure Agree (x y : Except Fault (α × Input)) (P : α → Prop) (rest : Input) : Prop where
  eq : x = y
  leaves : Leaves y P rest

theorem Agree.refl {x : Except Fault (α × Input)} (h : Leaves x P rest) : Agree x x P rest :=
  ⟨rfl, h⟩

theorem agree_error (fault : Fault) : Agree (.error fault) (.error fault) P rest :=
  .refl (leaves_error fault)

theorem Agree.imp {x y : Except Fault (α × Input)} {R : α → Prop} (h : Agree x y P rest)
    (hR : ∀ a, P a → R a) : Agree x y R rest :=
  ⟨h.eq, h.leaves.imp hR⟩

theorem Agree.bind {x y : Except Fault (α × Input)} (h : Agree x y P tail)
    {f g : α × Input → Except Fault (β × Input)}
    (hf : ∀ a, P a → Agree (f (a, tail)) (g (a, tail)) Q rest) :
    Agree (x >>= f) (y >>= g) Q rest := by
  obtain ⟨rfl, hx⟩ := h
  refine ⟨?_, hx.bind fun a ha => (hf a ha).leaves⟩
  cases x with
  | error fault => rfl
  | ok result =>
      obtain ⟨a, rest'⟩ := result
      obtain ⟨ha, rfl⟩ := hx a rest' rfl
      exact (hf a ha).eq

end Agree

/-! ## Values -/

theorem leaves_readScalar_string {chars : List (List Char)} (h : ∀ text ∈ chars, CharText text)
    (rest : Input) :
    Leaves (readScalar (some '"' :: charsTail chars rest))
      (fun j => ∃ s, j = .string s ∧ (s = "" → chars = [])) rest :=
  (leaves_readString h rest).bind fun s hs => leaves_ok ⟨s, rfl, hs⟩

/-- A flat value is the same cell both ways. -/
theorem leaves_readValue (depth : Nat) {gap text : List Char} (hg : Blank gap)
    (h : FlatValue text) {rest : Input} (hr : EndsNumber rest) :
    Leaves (readValue depth (gap.map some ++ (text.map some ++ rest)))
      (fun j => Cell.ofStored? j = some (Cell.ofForeign j)) rest := by
  cases h with
  | null =>
      rw [List.map_cons, List.cons_append,
        readValue_scalar depth hg rfl (by decide) (by decide)]
      exact leaves_ok rfl
  | number h =>
      obtain ⟨⟨c, tail, rfl, hc⟩, hread⟩ := leaves_readScalar_number h hr
      have hstart : isBlankSymbol (some c) = false ∧ c ≠ '[' ∧ c ≠ '\x7b' := by
        rcases hc with rfl | hc
        · decide
        · exact ⟨by simp [isBlankSymbol, ne_of_isDigit hc], ne_of_isDigit hc rfl,
            ne_of_isDigit hc rfl⟩
      rw [List.map_cons, List.cons_append] at hread ⊢
      rw [readValue_scalar depth hg hstart.1 hstart.2.1 hstart.2.2]
      refine hread.imp ?_
      rintro _ ⟨n, rfl⟩
      rfl
  -- The empty string would be an empty cell on one side only.
  | @string chars h hne =>
      have htext : ('"' :: (chars.flatten ++ ['"'])).map some ++ rest =
          some '"' :: charsTail chars rest := by simp [charsTail]
      rw [htext, readValue_scalar depth hg rfl (by decide) (by decide)]
      refine (leaves_readScalar_string h rest).imp ?_
      rintro _ ⟨s, rfl, hs⟩
      have hs' : s ≠ "" := fun he => hne (hs he)
      simp [Cell.ofStored?, Cell.ofForeign, hs']

theorem agree_readCell (depth : Nat) {gap text : List Char} (hg : Blank gap) (h : FlatValue text)
    {rest : Input} (hr : EndsNumber rest) :
    let s := gap.map some ++ (text.map some ++ rest)
    Agree (Cell.readStored depth s) (Cell.readForeign depth s) anything rest := by
  refine (Agree.refl (leaves_readValue depth hg h hr)).bind fun j hj => ?_
  simp only [hj]
  exact .refl (leaves_ok trivial)

/-! ## Loops -/

section Items

variable {α : Type} {item item' : Input → Except Fault (α × Input)}

theorem readItems_comma_objects (x : Symbol) (bound : Input) {gap text : List Char} (hg : Blank gap)
    (h : Parts FlatObject text) (rest : Input) :
    readItems item (x :: bound) false (gap.map some ++ some ',' :: (text.map some ++ rest)) =
      readItems item (x :: bound) true (text.map some ++ rest) := by
  obtain ⟨before, first, behind, hb, hfirst, rfl⟩ := h.exists_first
  obtain ⟨inner, rfl⟩ := hfirst.exists_eq_cons
  simp only [List.map_append, List.map_cons, List.append_assoc, List.cons_append]
  exact readItems_comma x bound hg hb rfl (by decide) _

/-- The readers agree on objects of flat members. -/
def AgreeOnObjects (item item' : Input → Except Fault (α × Input)) : Prop :=
  ∀ text rest, FlatObject text →
    Agree (item (text.map some ++ rest)) (item' (text.map some ++ rest)) anything rest

/-- One object is read in the same way, and then what is behind it. -/
theorem agree_nextItem (hitem : AgreeOnObjects item item') {gap text : List Char} (hg : Blank gap)
    (h : FlatObject text) (bound tail : Input) {rest : Input}
    (hmore : ∀ bound, Agree (readItems item bound false tail) (readItems item' bound false tail)
      anything rest) :
    let s := gap.map some ++ (text.map some ++ tail)
    Agree (readItems item bound true s) (readItems item' bound true s) (· ≠ []) rest := by
  cases bound with
  | nil => exact agree_error _
  | cons x bound =>
      have hagree := hitem text tail h
      obtain ⟨inner, rfl⟩ := h.exists_eq_cons
      rw [List.map_cons, List.cons_append] at hagree ⊢
      intro s
      rw [readItems_start x bound hg rfl (by decide), readItems_start x bound hg rfl (by decide)]
      refine hagree.bind fun first _ => (hmore bound).bind fun more _ => ?_
      exact .refl (leaves_ok (List.cons_ne_nil first more))

/-- The loops over flat objects agree, whatever bounds them, and give at least one of them. -/
theorem agree_readItems (hitem : AgreeOnObjects item item') {text : List Char}
    (h : Parts FlatObject text) (bound rest : Input) :
    let s := text.map some ++ some ']' :: rest
    Agree (readItems item bound true s) (readItems item' bound true s) (· ≠ []) rest := by
  induction h generalizing bound with
  | @one gap text gap' hg h hg' =>
      simp only [List.map_append, List.append_assoc]
      refine agree_nextItem hitem hg h bound _ ?_
      intro bound
      -- Behind the first object the bound has run out in both loops or in none.
      cases bound with
      | nil => exact agree_error _
      | cons x bound =>
          rw [readItems_end x bound false hg', readItems_end x bound false hg']
          exact .refl (leaves_ok trivial)
  | @cons gap text gap' more hg h hg' hmore ih =>
      simp only [List.map_append, List.append_assoc, List.map_cons, List.cons_append]
      refine agree_nextItem hitem hg h bound _ ?_
      intro bound
      cases bound with
      | nil => exact agree_error _
      | cons x bound =>
          rw [readItems_comma_objects x bound hg' hmore, readItems_comma_objects x bound hg' hmore]
          exact (ih (x :: bound)).imp fun _ _ => trivial

end Items

section Members

variable {σ : Type} {member member' : String → σ → Input → Except Fault (σ × Input)}

/-- The readers agree on what follows a key. -/
def AgreeBehindKeys (member member' : String → σ → Input → Except Fault (σ × Input)) : Prop :=
  ∀ key state gap gap' value rest, Blank gap → Blank gap' → FlatValue value → EndsNumber rest →
    let s := gap.map some ++ behindKey gap' value rest
    Agree (member key state s) (member' key state s) anything rest

theorem FlatMember.exists_map_eq {text : List Char} (h : FlatMember text) :
    ∃ key gap gap' value, (∀ text ∈ key, CharText text) ∧ Blank gap ∧ Blank gap' ∧
      FlatValue value ∧ ∀ rest, text.map some ++ rest =
        some '"' :: charsTail key (gap.map some ++ behindKey gap' value rest) := by
  obtain @⟨key, gap, gap', value, hk, hg, hg', hv⟩ := h
  exact ⟨key, gap, gap', value, hk, hg, hg', hv, fun rest => by simp [charsTail, behindKey]⟩

theorem readMembers_comma_members (x : Symbol) (bound : Input) (state : σ) {gap text : List Char}
    (hg : Blank gap) (h : Parts FlatMember text) (rest : Input) :
    readMembers readString member (x :: bound) false state
        (gap.map some ++ some ',' :: (text.map some ++ rest)) =
      readMembers readString member (x :: bound) true state (text.map some ++ rest) := by
  obtain ⟨before, first, behind, hb, hfirst, rfl⟩ := h.exists_first
  obtain ⟨key, gap', gap'', value, -, -, -, -, htext⟩ := hfirst.exists_map_eq
  simp only [List.map_append, List.append_assoc, htext]
  exact readMembers_comma x bound state hg hb _

/-- One member is read in the same way, and then what is behind it. -/
theorem agree_nextMember (hmember : AgreeBehindKeys member member') {gap text : List Char}
    (hg : Blank gap) (h : FlatMember text) (bound : Input) (state : σ) {tail rest : Input}
    (htail : EndsNumber tail)
    (hmore : ∀ bound state, Agree (readMembers readString member bound false state tail)
      (readMembers readString member' bound false state tail) anything rest) :
    let s := gap.map some ++ (text.map some ++ tail)
    Agree (readMembers readString member bound true state s)
      (readMembers readString member' bound true state s) anything rest := by
  cases bound with
  | nil => exact agree_error _
  | cons x bound =>
      obtain ⟨key, gap', gap'', value, hk, hg', hg'', hv, htext⟩ := h.exists_map_eq
      rw [htext]
      intro s
      rw [readMembers_start x bound state hg, readMembers_start x bound state hg]
      refine (Agree.refl (leaves_readString hk _)).bind fun name _ => ?_
      exact (hmember name state gap' gap'' value tail hg' hg'' hv htail).bind fun next _ =>
        hmore bound next

theorem agree_readMembers_end (bound : Input) (first : Bool) (state : σ) {gap : List Char}
    (hg : Blank gap) (rest : Input) :
    let s := gap.map some ++ some '\x7d' :: rest
    Agree (readMembers readString member bound first state s)
      (readMembers readString member' bound first state s) anything rest := by
  intro s
  cases bound with
  | nil => exact agree_error _
  | cons x bound =>
      rw [readMembers_end x bound first state hg, readMembers_end x bound first state hg]
      exact .refl (leaves_ok trivial)

/-- The loops over flat members agree, whatever bounds them. -/
theorem agree_readMembers (hmember : AgreeBehindKeys member member') {text : List Char}
    (h : Parts FlatMember text) (bound : Input) (state : σ) (rest : Input) :
    let s := text.map some ++ some '\x7d' :: rest
    Agree (readMembers readString member bound true state s)
      (readMembers readString member' bound true state s) anything rest := by
  induction h generalizing bound state with
  | @one gap text gap' hg h hg' =>
      simp only [List.map_append, List.append_assoc]
      refine agree_nextMember hmember hg h bound state (endsNumber_append hg' (by simp) rest) ?_
      exact fun bound state => agree_readMembers_end bound false state hg' rest
  | @cons gap text gap' more hg h hg' hmore ih =>
      simp only [List.map_append, List.append_assoc, List.map_cons, List.cons_append]
      refine agree_nextMember hmember hg h bound state (endsNumber_append hg' (by simp) _) ?_
      intro bound state
      cases bound with
      | nil => exact agree_error _
      | cons x bound =>
          rw [readMembers_comma_members x bound state hg' hmore,
            readMembers_comma_members x bound state hg' hmore]
          exact ih (x :: bound) state

end Members

/-! ## Objects -/

theorem agree_putMember (depth : Nat) :
    AgreeBehindKeys (Record.putMember Cell.readStored depth)
      (Record.putMember Cell.readForeign depth) := by
  intro key r gap gap' value rest hg hg' hv hr s
  have hcolon : readColon s = .ok (gap'.map some ++ (value.map some ++ rest)) :=
    readColon_append hg _
  rw [Record.putMember, Record.putMember, hcolon]
  exact (agree_readCell depth hg' hv hr).bind fun c _ => .refl (leaves_ok trivial)

theorem read_brace (cell : Nat → Input → Except Fault (Cell × Input)) (depth : Nat)
    (inner : List Char) (rest : Input) :
    let s := inner.map some ++ some '\x7d' :: rest
    Record.read cell (depth + 1) (('\x7b' :: (inner ++ ['\x7d'])).map some ++ rest) =
      readMembers readString (Record.putMember cell depth) s true Record.empty s := by
  have htext : ('\x7b' :: (inner ++ ['\x7d'])).map some ++ rest =
      some '\x7b' :: (inner.map some ++ some '\x7d' :: rest) := by simp
  rw [htext]
  rfl

/-- A flat object is the same record both ways. -/
theorem agree_readRecord (depth : Nat) :
    AgreeOnObjects (Record.read Cell.readStored depth) (Record.read Cell.readForeign depth) := by
  intro text rest h
  cases depth with
  | zero =>
      obtain ⟨inner, rfl⟩ := h.exists_eq_cons
      exact agree_error _
  | succ depth =>
      cases h with
      | @empty gap hg =>
          rw [read_brace, read_brace]
          exact agree_readMembers_end _ true _ hg rest
      | members h =>
          rw [read_brace, read_brace]
          exact agree_readMembers (agree_putMember depth) h _ _ rest

/-! ## Tables -/

theorem agree_readTable (depth : Nat) {text : List Char} (h : FlatTable text) :
    ∃ gap : List Char,
      Agree (readArray (depth + 1) (Record.read Cell.readStored) (text.map some))
        (readArray (depth + 1) (Record.read Cell.readForeign) (text.map some)) (· ≠ [])
        (gap.map some) := by
  obtain @⟨gap, inner, gap', hg, h, -⟩ := h
  refine ⟨gap', ?_⟩
  have htext : (gap ++ '[' :: (inner ++ ']' :: gap')).map some =
      gap.map some ++ some '[' :: (inner.map some ++ some ']' :: gap'.map some) := by simp
  rw [htext]
  simp only [readArray, skipBlanks_append hg (c := '[') rfl]
  exact agree_readItems (agree_readRecord depth) h _ _

end Json

namespace Table

variable {text : List Char}

/-- A flat table is read in the same way as a stored one and as a foreign one. -/
theorem ofStored_eq_ofForeign (h : FlatTable text) :
    ofStored (text.map some) = ofForeign (text.map some) := by
  obtain ⟨gap, hagree⟩ := agree_readTable 126 h
  rw [ofStored, ofForeign, whole, whole]
  exact congrArg (· >>= _) hagree.eq

/-- A string that is empty is read as itself or as an empty cell. -/
example : ofStored (Text.symbolsOf "[\x7b\"a\":\"\"\x7d]") ≠
    ofForeign (Text.symbolsOf "[\x7b\"a\":\"\"\x7d]") := by
  decide +kernel

theorem ne_nil_of_ofForeign (h : FlatTable text) {t : Table}
    (ht : ofForeign (text.map some) = .ok t) : t ≠ [] := by
  obtain ⟨gap, hagree⟩ := agree_readTable 126 h
  obtain ⟨rest, hread⟩ := exists_of_whole ht
  exact (hagree.leaves t rest hread).1

end Table

end Tabular
