import Mathlib.Tactic.Ring
import FlashIdent.Text.Hex

/-!
# Digits of fixed and of least width

A number with few enough digits is what its digits are, a number of two parts has the digits of both, and a number
that is padded never shows fewer digits than it has.
-/

namespace FlashIdent.Text.Hex

variable {letters : Letters}

theorem fixed_inj {w m n : Nat} (hm : m < 16 ^ w) (hn : n < 16 ^ w) :
    fixed letters w m = fixed letters w n ↔ m = n := by
  induction w generalizing m n with
  | zero =>
    rw [Nat.pow_zero, Nat.lt_one_iff] at hm hn
    simp [hm, hn]
  | succ w ih =>
    rw [Nat.pow_succ] at hm hn
    rw [fixed_succ_inj, ih (by omega) (by omega)]
    omega

theorem capitalByte_inj {a b : UInt8} : capitalByte a = capitalByte b ↔ a = b := by
  rw [capitalByte, capitalByte, String.ofList_inj, fixed_inj a.toNat_lt b.toNat_lt, UInt8.toNat_inj]

/-- The digits of a number in two parts. -/
theorem fixed_add {v low : Nat} (w high : Nat) (hlow : low < 16 ^ v) :
    fixed letters (w + v) (high * 16 ^ v + low) = fixed letters w high ++ fixed letters v low := by
  induction v generalizing low with
  | zero =>
    rw [Nat.pow_zero, Nat.lt_one_iff] at hlow
    simp [fixed, hlow]
  | succ v ih =>
    rw [Nat.pow_succ] at hlow
    have hplace : high * 16 ^ (v + 1) = high * 16 ^ v * 16 := by rw [Nat.pow_succ, Nat.mul_assoc]
    have hparts : (high * 16 ^ (v + 1) + low) / 16 = high * 16 ^ v + low / 16 := by omega
    have hlast : (high * 16 ^ (v + 1) + low) % 16 = low % 16 := by omega
    rw [← Nat.add_assoc, fixed, hparts, hlast, ih (by omega), fixed, List.append_assoc]

theorem width_pos (n : Nat) : 0 < width n := by
  rw [width]
  split
  · exact Nat.one_pos
  · exact Nat.succ_pos _

theorem width_le_iff {w n : Nat} : width n ≤ w + 1 ↔ n < 16 ^ (w + 1) := by
  induction w generalizing n with
  | zero =>
    have hpos := width_pos (n / 16)
    rw [width]
    split
    · omega
    · omega
  | succ w ih =>
    have hpos : 0 < 16 ^ (w + 1) := Nat.pow_pos (by decide)
    rw [width, Nat.pow_succ]
    split
    · omega
    · rw [Nat.add_le_add_iff_right, ih]
      omega

/-- Padding cuts nothing off: a text of the least width is shown by the one number that has these digits. -/
theorem padded_eq_fixed_iff {w m n : Nat} (hm : m < 16 ^ (w + 1)) :
    padded letters (w + 1) n = fixed letters (w + 1) m ↔ n = m := by
  rw [padded]
  by_cases hn : n < 16 ^ (w + 1)
  · rw [Nat.max_eq_left (width_le_iff.mpr hn), fixed_inj hn hm]
  · have hwider : w + 1 < width n := Nat.lt_of_not_le fun h => hn (width_le_iff.mp h)
    constructor
    · intro h
      have hlength := congrArg List.length h
      rw [length_fixed, length_fixed] at hlength
      omega
    · rintro rfl
      exact absurd hm hn

/-- Padding does not hide where a number begins. -/
theorem padded_inj {w m n : Nat} : padded letters (w + 1) m = padded letters (w + 1) n ↔ m = n := by
  constructor
  · intro h
    have hwidth : max (w + 1) (width m) = max (w + 1) (width n) := by
      have hlength := congrArg List.length h
      rwa [padded, padded, length_fixed, length_fixed] at hlength
    obtain ⟨v, hv⟩ : ∃ v, max (w + 1) (width n) = v + 1 := ⟨max (w + 1) (width n) - 1, by omega⟩
    have hm : m < 16 ^ (v + 1) := width_le_iff.mp (by omega)
    have hn : n < 16 ^ (v + 1) := width_le_iff.mp (by omega)
    rwa [padded, padded, hwidth, hv, fixed_inj hm hn] at h
  · rintro rfl
    rfl

end FlashIdent.Text.Hex
