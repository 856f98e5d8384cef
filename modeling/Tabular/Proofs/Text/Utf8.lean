import Mathlib.Data.List.Basic
import Tabular.Text.Encoding

set_option autoImplicit false

/-! # Texts as bytes of a file

A text is written as the bytes of its characters (`data_toUTF8`) and read back from them, as a text
(`fromUTF8?_utf8`) or as its characters without stray bytes (`symbols_toUTF8`). The byte of an ASCII
character stands in no other character (`toUInt8_mem_utf8EncodeChar`), so that a reader of bytes
that looks for such a character does not find it inside another one.
-/

namespace Tabular.Text

/-! ## Bytes of characters -/

def utf8 (s : List Char) : List UInt8 := s.flatMap String.utf8EncodeChar

@[simp] theorem utf8_nil : utf8 [] = [] := rfl

@[simp] theorem utf8_cons (c : Char) (s : List Char) :
    utf8 (c :: s) = String.utf8EncodeChar c ++ utf8 s := List.flatMap_cons

@[simp] theorem utf8_append (s t : List Char) : utf8 (s ++ t) = utf8 s ++ utf8 t :=
  List.flatMap_append

theorem utf8_eq_nil_iff {s : List Char} : utf8 s = [] ↔ s = [] := by
  cases s <;> simp

theorem toByteArray_utf8 (s : List Char) : (utf8 s).toByteArray = (String.ofList s).toUTF8 := rfl

theorem data_toUTF8 (s : String) : s.toUTF8.data.toList = utf8 s.toList := by
  have h := toByteArray_utf8 s.toList
  rw [String.ofList_toList] at h
  rw [← h, List.toList_data_toByteArray]

theorem fromUTF8?_toUTF8 (s : String) : String.fromUTF8? s.toUTF8 = some s := by
  unfold String.fromUTF8?
  exact dif_pos s.isValidUTF8

theorem fromUTF8?_utf8 (s : List Char) :
    String.fromUTF8? (utf8 s).toByteArray = some (String.ofList s) := by
  rw [toByteArray_utf8, fromUTF8?_toUTF8]

/-! ## ASCII characters -/

theorem toNat_toUInt8 {m : Char} (hm : m.toNat < 128) : m.toUInt8.toNat = m.toNat := by
  show m.toNat % 256 = m.toNat
  omega

theorem toUInt8_inj {m c : Char} (hm : m.toNat < 128) (hc : c.toNat < 128) :
    m.toUInt8 = c.toUInt8 ↔ m = c := by
  constructor
  · intro h
    have hn := congrArg UInt8.toNat h
    rw [toNat_toUInt8 hm, toNat_toUInt8 hc] at hn
    exact Char.ext (UInt32.toNat_inj.mp hn)
  · rintro rfl
    rfl

theorem utf8EncodeChar_of_ascii {c : Char} (hc : c.toNat < 128) :
    String.utf8EncodeChar c = [c.toUInt8] :=
  String.utf8EncodeChar_eq_singleton (Char.utf8Size_eq_one_iff.mpr (by
    rw [UInt32.le_iff_toNat_le]
    exact Nat.le_of_lt_succ hc))

theorem utf8_cons_of_ascii {c : Char} (hc : c.toNat < 128) (s : List Char) :
    utf8 (c :: s) = c.toUInt8 :: utf8 s := by
  rw [utf8_cons, utf8EncodeChar_of_ascii hc, List.singleton_append]

theorem le_toNat_of_mem_utf8EncodeChar {c : Char} (hc : 128 ≤ c.toNat) {b : UInt8}
    (hb : b ∈ String.utf8EncodeChar c) : 128 ≤ b.toNat := by
  have hv : ¬ c.val.toNat ≤ 0x7f := Nat.not_le_of_lt hc
  rw [String.utf8EncodeChar] at hb
  simp only [if_neg hv] at hb
  split at hb
  · simp only [List.mem_cons, List.not_mem_nil, or_false] at hb
    rcases hb with rfl | rfl <;> rw [UInt8.toNat_ofNat'] <;> omega
  split at hb
  · simp only [List.mem_cons, List.not_mem_nil, or_false] at hb
    rcases hb with rfl | rfl | rfl <;> rw [UInt8.toNat_ofNat'] <;> omega
  · simp only [List.mem_cons, List.not_mem_nil, or_false] at hb
    rcases hb with rfl | rfl | rfl | rfl <;> rw [UInt8.toNat_ofNat'] <;> omega

/-- The byte of an ASCII character is a byte of no other character. -/
theorem toUInt8_mem_utf8EncodeChar {m c : Char} (hm : m.toNat < 128) :
    m.toUInt8 ∈ String.utf8EncodeChar c ↔ c = m := by
  by_cases hc : c.toNat < 128
  · rw [utf8EncodeChar_of_ascii hc, List.mem_singleton, toUInt8_inj hm hc, eq_comm]
  · constructor
    · intro h
      have hle := le_toNat_of_mem_utf8EncodeChar (Nat.le_of_not_lt hc) h
      rw [toNat_toUInt8 hm] at hle
      omega
    · rintro rfl
      exact absurd hm hc

theorem toUInt8_mem_utf8 {m : Char} (hm : m.toNat < 128) {s : List Char} :
    m.toUInt8 ∈ utf8 s ↔ m ∈ s := by
  simp [utf8, List.mem_flatMap, toUInt8_mem_utf8EncodeChar hm]

/-- Characters whose bytes begin alike are the same. -/
theorem eq_of_prefix_utf8 {m : Char} {s : List Char}
    (h : String.utf8EncodeChar m <+: utf8 s) : s.head? = some m := by
  obtain ⟨rest, h⟩ := h
  cases s with
  | nil => simp at h
  | cons c s =>
      have hm := ByteArray.utf8DecodeChar?_utf8EncodeChar_append (b := rest.toByteArray) (c := m)
      have hc := List.utf8DecodeChar?_utf8Encode_cons (c := c) (l := s)
      rw [← List.toByteArray_append, h] at hm
      rw [List.head?_cons, ← hc]
      exact hm

/-! ## Symbols -/

theorem size_utf8Encode_singleton (c : Char) : [c].utf8Encode.size = c.utf8Size := by
  rw [List.utf8Encode_singleton, List.size_toByteArray, String.length_utf8EncodeChar]

/-- Behind the bytes of some characters, the symbols are the characters that follow. -/
theorem symbolsFrom_utf8Encode (before after : List Char) :
    symbolsFrom (before ++ after).utf8Encode before.utf8Encode.size = after.map some := by
  induction after generalizing before with
  | nil =>
      rw [symbolsFrom, List.append_nil, dif_neg (Nat.lt_irrefl _)]
      rfl
  | cons c rest ih =>
      have hs : (before ++ c :: rest).utf8Encode =
          before.utf8Encode ++ (c :: rest).utf8Encode := List.utf8Encode_append
      have hd : (before ++ c :: rest).utf8Encode.utf8DecodeChar? before.utf8Encode.size =
          some c := by
        rw [ByteArray.utf8DecodeChar?_eq_utf8DecodeChar?_extract, hs,
          ByteArray.extract_append_eq_right rfl ByteArray.size_append]
        exact List.utf8DecodeChar?_utf8Encode_cons
      have hlt : before.utf8Encode.size < (before ++ c :: rest).utf8Encode.size :=
        ByteArray.lt_size_of_isSome_utf8DecodeChar? (by rw [hd]; rfl)
      -- The character that was read belongs to what is behind from here on.
      have hn : before.utf8Encode.size + c.utf8Size = (before ++ [c]).utf8Encode.size := by
        rw [List.utf8Encode_append, ByteArray.size_append, size_utf8Encode_singleton]
      have hb : before ++ c :: rest = (before ++ [c]) ++ rest := by simp
      rw [symbolsFrom, dif_pos hlt]
      simp only [hd]
      rw [hn, hb, ih (before ++ [c])]
      rfl

theorem symbols_toUTF8 (s : String) : symbols s.toUTF8 = symbolsOf s := by
  have h := symbolsFrom_utf8Encode [] s.toList
  rw [List.nil_append, String.utf8Encode_toList] at h
  exact h

theorem symbols_utf8 (s : List Char) : symbols (utf8 s).toByteArray = s.map some := by
  rw [toByteArray_utf8, symbols_toUTF8, symbolsOf, String.toList_ofList]

end Tabular.Text
