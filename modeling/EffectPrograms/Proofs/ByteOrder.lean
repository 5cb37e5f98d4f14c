import EffectPrograms.Bytes
import Mathlib.Tactic.SplitIfs

set_option autoImplicit false

namespace EffectPrograms.Bytes
open String (utf8EncodeChar)

theorem ofNat_lt_iff {m n : Nat} (left : m < 256) (right : n < 256) :
    UInt8.ofNat m < UInt8.ofNat n ↔ m < n := by
  rw [UInt8.lt_iff_toNat_lt, UInt8.toNat_ofNat', UInt8.toNat_ofNat', Nat.mod_eq_of_lt left,
    Nat.mod_eq_of_lt right]

theorem ofNat_eq_iff {m n : Nat} (left : m < 256) (right : n < 256) :
    UInt8.ofNat m = UInt8.ofNat n ↔ m = n := by
  rw [← UInt8.toNat_inj, UInt8.toNat_ofNat', UInt8.toNat_ofNat', Nat.mod_eq_of_lt left,
    Nat.mod_eq_of_lt right]

theorem utf8EncodeChar_lt {c d : Char} (less : c < d) (rest tail : Bytes) :
    utf8EncodeChar c ++ rest < utf8EncodeChar d ++ tail := by
  have order : c.val.toNat < d.val.toNat := less
  have bound : d.val.toNat < 0x110000 := by
    rcases d.valid with low | high
    · exact Nat.lt_trans low (by decide)
    · exact high.2
  -- Each byte after the first stands for six bits.
  have twice (n : Nat) : n / 4096 = n / 64 / 64 := (Nat.div_div_eq_div_mul n 64 64).symm
  have thrice (n : Nat) : n / 262144 = n / 64 / 64 / 64 := by
    rw [← twice, Nat.div_div_eq_div_mul]
  simp only [utf8EncodeChar]
  generalize c.val.toNat = m at *
  generalize d.val.toNat = n at *
  -- One case for each pair of lengths; only equal lengths need more than the first byte.
  split_ifs <;>
    simp (disch := omega) only [List.cons_append, List.cons_lt_cons_iff, ofNat_lt_iff,
      ofNat_eq_iff, twice, thrice] <;>
    omega

theorem flatMap_lt {left right : List Char} (less : left < right) :
    left.flatMap utf8EncodeChar < right.flatMap utf8EncodeChar := by
  induction less with
  | @nil c rest =>
    rw [List.flatMap_nil, List.flatMap_cons]
    rcases shown : utf8EncodeChar c with _ | ⟨first, more⟩
    · exact absurd shown String.utf8EncodeChar_ne_nil
    · exact .nil
  | rel before => exact utf8EncodeChar_lt before _ _
  | cons _ ih => exact List.append_left_lt ih

theorem ofText_lt {left right : String} (less : left < right) : ofText left < ofText right := by
  rw [ofText_eq, ofText_eq]
  exact flatMap_lt (String.lt_iff.mp less)

end EffectPrograms.Bytes
