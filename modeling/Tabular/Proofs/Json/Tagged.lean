import Tabular.Error
import Tabular.Json.Shape
import Tabular.Json.Tagged
import Tabular.Proofs.Json.Containers

set_option autoImplicit false

/-! # Tagged alternatives as they are written and read

A tagged alternative is written with its tag in front of its other members. When none of these has
the key of the tag, the alternative is read as its tag and the other members (`reads_tagged`), and
so it is decoded from a value (`tagged?_cons`).

Conversely, what has been read comes from its parts: each item of an array was read as an item
(`exists_of_readArray`), and an object keeps what each of its members keeps
(`readObject_preserves`).
-/

namespace Tabular.Json

/-! ## Writing and reading -/

theorem tagged?_cons {tag : String} {value : Json} {members : List (String × Json)}
    (h : ∀ m ∈ members, m.1 ≠ tag) :
    tagged? tag (.object ((tag, value) :: members)) = some (value, .object members) := by
  have hnone : members.filter (fun m => decide (m.1 = tag)) = [] := by
    rw [List.filter_eq_nil_iff]
    intro m hm
    simpa using h m hm
  have hall : members.filter (fun m => decide (m.1 ≠ tag)) = members := by
    rw [List.filter_eq_self]
    intro m hm
    simpa using h m hm
  have hvalues : valuesOf tag ((tag, value) :: members) = [value] := by
    rw [valuesOf, List.filter_cons_of_pos (by simp), hnone]
    rfl
  rw [tagged?, hvalues]
  simp only [List.filter_cons_of_neg (p := fun m : String × Json => decide (m.1 ≠ tag))
    (a := (tag, value)) (by simp), hall]

theorem strings?_map_string (texts : List String) :
    (Json.array (texts.map .string)).strings? = some texts := by
  rw [strings?]
  induction texts with
  | nil => rfl
  | cons text texts ih => rw [List.map_cons, List.mapM_cons, ih]; rfl

theorem fits_strings (depth : Nat) (texts : List String) :
    Fits (depth + 1) (.array (texts.map .string)) := by
  refine .array fun j hj => ?_
  obtain ⟨s, -, rfl⟩ := List.mem_map.mp hj
  exact .string depth s

variable {key : String} {known : String → Bool} {w : Spacing} {level depth : Nat}

theorem readTag_eq {tag : String} (hk : known tag = true) {gap : List Char} (hg : Blank gap)
    (rest : Input) :
    readTag known (gap.map some ++ ((stringText tag).map some ++ rest)) = .ok (tag, rest) := by
  rw [map_stringText]
  simp only [readTag, skipBlanks_append hg (c := '"') rfl, readString_stringTail, hk, bind,
    Except.bind, if_true]

/-- The members after the tag are all kept. -/
theorem gathers_untagged {members : List (String × Json)} (hm : ∀ m ∈ members, m.1 ≠ key)
    (hf : ∀ m ∈ members, Fits depth m.2) (tag : Option String) (before : List (String × Json)) :
    Gathers (readTaggedMember key known depth) w.colonGap
      (members.map fun m => (m.1, w.text level m.2)) ⟨tag, before⟩ ⟨tag, before ++ members⟩ := by
  induction members generalizing before with
  | nil =>
      rw [List.append_nil]
      exact .nil _
  | cons m members ih =>
      have hmore := ih (fun m h => hm m (List.mem_cons_of_mem _ h))
        (fun m h => hf m (List.mem_cons_of_mem _ h)) (before ++ [m])
      rw [List.append_assoc, List.singleton_append] at hmore
      refine .cons (fun rest hr => ?_) hmore
      have hread : Reads (readValue depth) (w.text level m.2) m.2 :=
        reads_of_fits (hf m List.mem_cons_self)
      rw [readTaggedMember, if_neg (hm m List.mem_cons_self), readColon_behindKey]
      simp only [hread.reads _ w.blank_colonGap rest hr, bind, Except.bind]

/-- A tagged alternative is read as its tag and its other members. -/
theorem reads_tagged {tag : String} (hk : known tag = true) {members : List (String × Json)}
    (hm : ∀ m ∈ members, m.1 ≠ key) (hf : ∀ m ∈ members, Fits depth m.2) :
    Reads (readTagged key known (depth + 1))
      (w.text level (.object ((key, .string tag) :: members))) (tag, .object members) := by
  have hgathers : Gathers (readTaggedMember key known depth) w.colonGap
      (((key, Json.string tag) :: members).map fun m => (m.1, w.text (level + 1) m.2))
      ⟨none, []⟩ ⟨some tag, members⟩ := by
    refine .cons (fun rest _ => ?_) (gathers_untagged hm hf (some tag) [])
    have htag : w.text (level + 1) (.string tag) = stringText tag := by cases w <;> rfl
    rw [readTaggedMember, if_pos rfl, readColon_behindKey, htag]
    simp only [readTag_eq hk w.blank_colonGap, bind, Except.bind]
  rw [Spacing.text_object]
  refine reads_of_bracket rfl (by decide) fun s rest hs => ?_
  have hread := readMembers_texts hgathers rest
  simp only [readTagged, hs, hread, bind, Except.bind]

/-! ## What was read -/

/-- What is read as a whole was read by the reader. -/
theorem exists_of_whole {α : Type} {read : Input → Except Fault (α × Input)} {s : Input} {x : α}
    (h : whole read s = .ok x) : ∃ rest, read s = .ok (x, rest) := by
  obtain ⟨⟨y, rest⟩, hread, h⟩ := exists_of_bind_eq_ok h
  obtain ⟨u, -, h⟩ := exists_of_bind_eq_ok h
  cases h
  exact ⟨rest, hread⟩

/-- Each item of an array was read by the reader of items. -/
theorem exists_of_readItems {α : Type} {item : Input → Except Fault (α × Input)}
    {bound : Input} {first : Bool} {s rest : Input} {items : List α}
    (h : readItems item bound first s = .ok (items, rest)) :
    ∀ a ∈ items, ∃ s rest, item s = .ok (a, rest) := by
  induction bound generalizing first s items with
  | nil => cases h
  | cons x bound ih =>
      -- An item is read, and those after it in the rest of the loop.
      have hmore {t : Input}
          (ht : (item t >>= fun a => readItems item bound false a.2 >>= fun as =>
            .ok (a.1 :: as.1, as.2)) = .ok (items, rest)) :
          ∀ a ∈ items, ∃ s rest, item s = .ok (a, rest) := by
        obtain ⟨⟨a, after⟩, ha, ht⟩ := exists_of_bind_eq_ok ht
        obtain ⟨⟨as, last⟩, has, ht⟩ := exists_of_bind_eq_ok ht
        cases ht
        intro b hb
        rcases List.mem_cons.mp hb with rfl | hb
        · exact ⟨t, after, ha⟩
        · exact ih has b hb
      -- The loop goes on where an item may stand, and at no other symbol.
      unfold readItems at h
      simp only at h
      split at h
      · cases h
      · cases h
        simp
      · split at h
        · exact hmore h
        · split at h
          · split at h
            · cases h
            · cases h
            · exact hmore h
          · cases h

/-- What each member keeps is kept by all members of an object. -/
theorem readMembers_preserves {κ σ : Type} {readKey : Input → Except Fault (κ × Input)}
    {member : κ → σ → Input → Except Fault (σ × Input)} {P : σ → Prop}
    (hstep : ∀ {k state s next rest}, P state → member k state s = .ok (next, rest) → P next)
    {bound : Input} {first : Bool} {state final : σ} {s rest : Input} (hs : P state)
    (h : readMembers readKey member bound first state s = .ok (final, rest)) : P final := by
  induction bound generalizing first state s with
  | nil => cases h
  | cons x bound ih =>
      -- A member is read, and those after it in the rest of the loop.
      have hmore {t : Input}
          (ht : (readKey t >>= fun k => member k.1 state k.2 >>= fun next =>
            readMembers readKey member bound false next.1 next.2) = .ok (final, rest)) :
          P final := by
        obtain ⟨⟨k, after⟩, -, ht⟩ := exists_of_bind_eq_ok ht
        obtain ⟨⟨next, last⟩, hm, ht⟩ := exists_of_bind_eq_ok ht
        exact ih (hstep hs hm) ht
      unfold readMembers at h
      simp only at h
      split at h
      · cases h
      · cases h
        exact hs
      · split at h
        · split at h
          · exact hmore h
          · cases h
        · split at h
          · split at h
            · cases h
            · exact hmore h
            · cases h
          · cases h

theorem unexpected_ne_ok {α : Type} (s : Input) (a : α) (rest : Input) :
    unexpected s ≠ .ok (a, rest) := by
  intro h
  unfold unexpected at h
  split at h
  · cases h
  · cases h
  · obtain ⟨j, -, h⟩ := exists_of_bind_eq_ok h
    cases h

/-- Each item of an array was read by the reader of items. -/
theorem exists_of_readArray {α : Type} {item : Nat → Input → Except Fault (α × Input)}
    {s rest : Input} {items : List α} (h : readArray depth item s = .ok (items, rest)) :
    ∀ a ∈ items, ∃ depth s rest, item depth s = .ok (a, rest) := by
  unfold readArray at h
  split at h
  · cases depth with
    | zero => cases h
    | succ depth =>
        intro a ha
        exact ⟨depth, exists_of_readItems h a ha⟩
  · exact absurd h (unexpected_ne_ok _ _ _)

/-- What each member keeps is kept by an object. -/
theorem readObject_preserves {σ : Type} {member : Nat → String → σ → Input →
      Except Fault (σ × Input)} {P : σ → Prop}
    (hstep : ∀ {depth key state s next rest}, P state →
      member depth key state s = .ok (next, rest) → P next)
    {start final : σ} {s rest : Input} (hs : P start)
    (h : readObject depth member start s = .ok (final, rest)) : P final := by
  unfold readObject at h
  split at h
  · cases depth with
    | zero => cases h
    | succ depth => exact readMembers_preserves hstep hs h
  · exact absurd h (unexpected_ne_ok _ _ _)

end Tabular.Json
