import Mathlib.Tactic.Ring
import Tabular.Number.Basic

set_option autoImplicit false

/-! # The bits of a number

Behind the sign the finite numbers fill one interval of words, infinity is the word that follows,
and the NaNs come behind it. So numbers with the same bits are the same (`bits_injective`).
-/

namespace Tabular.Number

theorem lowBits_lt (x : Number) : x.lowBits < 2 ^ 63 := by
  have hlimit : infiniteRank + binadeSize = 2 ^ 63 := by decide
  have hsize : 0 < binadeSize := by decide
  cases x with
  | nan b =>
      have hb := b.fraction_lt
      show infiniteRank + b.fraction < 2 ^ 63
      omega
  | finite negative rank hr =>
      show rank < 2 ^ 63
      omega
  | infinite negative =>
      show infiniteRank < 2 ^ 63
      omega

/-- The bits behind the sign tell finite numbers, infinity and NaNs apart. -/
theorem eq_of_sign_of_lowBits {x y : Number} (hs : x.sign = y.sign)
    (hb : x.lowBits = y.lowBits) : x = y := by
  -- Finite ranks are below `infiniteRank`, infinity is there, and a NaN is above by its fraction.
  cases x with
  | nan b =>
      obtain ⟨negative, fraction, hpos, hlt⟩ := b
      cases y with
      | nan b' =>
          obtain ⟨negative', fraction', hpos', hlt'⟩ := b'
          obtain rfl : negative = negative' := hs
          obtain rfl : fraction = fraction' := Nat.add_left_cancel hb
          rfl
      | finite negative' rank' hr' =>
          have h : infiniteRank + fraction = rank' := hb
          omega
      | infinite negative' =>
          have h : infiniteRank + fraction = infiniteRank := hb
          omega
  | finite negative rank hr =>
      cases y with
      | nan b' =>
          have h : rank = infiniteRank + b'.fraction := hb
          omega
      | finite negative' rank' hr' =>
          obtain rfl : negative = negative' := hs
          obtain rfl : rank = rank' := hb
          rfl
      | infinite negative' =>
          have h : rank = infiniteRank := hb
          omega
  | infinite negative =>
      cases y with
      | nan b' =>
          have hpos := b'.fraction_pos
          have h : infiniteRank = infiniteRank + b'.fraction := hb
          omega
      | finite negative' rank' hr' =>
          have h : infiniteRank = rank' := hb
          omega
      | infinite negative' =>
          obtain rfl : negative = negative' := hs
          rfl

theorem bits_injective {x y : Number} (h : x.bits = y.bits) : x = y := by
  have hx := x.lowBits_lt
  have hy := y.lowBits_lt
  unfold bits at h
  cases hsx : x.sign <;> cases hsy : y.sign <;>
    simp only [hsx, hsy, Bool.false_eq_true, if_false, if_true] at h
  · exact eq_of_sign_of_lowBits (hsx.trans hsy.symm) (by omega)
  · omega
  · omega
  · exact eq_of_sign_of_lowBits (hsx.trans hsy.symm) (by omega)

end Tabular.Number
