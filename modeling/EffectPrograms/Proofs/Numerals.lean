import EffectPrograms.Decimal.Numeral

set_option autoImplicit false

namespace EffectPrograms.Decimal

theorem ofDigitChars_zeros (zeros n : Nat) :
    Nat.ofDigitChars 10 (List.replicate zeros '0' ++ Nat.toDigits 10 n) 0 = n := by
  simp [Nat.ofDigitChars_append, Nat.ofDigitChars_replicate_zero, Nat.ofDigitChars_ten_toDigits]

theorem isDigit_of_mem_zeros {zeros n : Nat} {c : Char}
    (member : c ∈ List.replicate zeros '0' ++ Nat.toDigits 10 n) : c.isDigit = true := by
  rcases List.mem_append.mp member with zero | digit
  · rw [(List.mem_replicate.mp zero).2]
    rfl
  · exact Nat.isDigit_of_mem_toDigits (by decide) (by decide) digit

theorem length_zeros {width n : Nat} (positive : 0 < width) (small : n < Nat.pow 10 width) :
    (List.replicate (width - (Nat.toDigits 10 n).length) '0' ++ Nat.toDigits 10 n).length =
      width := by
  have few : (Nat.toDigits 10 n).length ≤ width :=
    (Nat.length_toDigits_le_iff (by decide) positive).mpr small
  rw [List.length_append, List.length_replicate]
  omega

-- A lead in front of the digits is never made up by digits behind it.
theorem ofDigitChars_lt {as bs : List Char} (lengths : as.length = bs.length)
    (left : ∀ c ∈ as, c.isDigit = true) (right : ∀ c ∈ bs, c.isDigit = true) {a b : Nat}
    (less : a < b) : Nat.ofDigitChars 10 as a < Nat.ofDigitChars 10 bs b := by
  induction as generalizing bs a b with
  | nil =>
    obtain rfl := List.eq_nil_of_length_eq_zero lengths.symm
    exact less
  | cons c as ih =>
    cases bs with
    | nil => cases lengths
    | cons d bs =>
      have top : c.toNat ≤ 57 := (Char.isDigit_iff_toNat.mp (left c (by simp))).2
      rw [Nat.ofDigitChars_cons, Nat.ofDigitChars_cons]
      refine ih (Nat.succ.inj lengths) (fun x member => left x (List.mem_cons_of_mem _ member))
        (fun x member => right x (List.mem_cons_of_mem _ member)) ?_
      have zero : '0'.toNat = 48 := rfl
      omega

theorem lt_of_ofDigitChars_lt {as bs : List Char} (lengths : as.length = bs.length)
    (left : ∀ c ∈ as, c.isDigit = true) (right : ∀ c ∈ bs, c.isDigit = true) {a : Nat}
    (less : Nat.ofDigitChars 10 as a < Nat.ofDigitChars 10 bs a) : as < bs := by
  induction as generalizing bs a with
  | nil =>
    obtain rfl := List.eq_nil_of_length_eq_zero lengths.symm
    exact absurd less (Nat.lt_irrefl _)
  | cons c as ih =>
    cases bs with
    | nil => cases lengths
    | cons d bs =>
      have lefts : ∀ x ∈ as, x.isDigit = true := fun x member =>
        left x (List.mem_cons_of_mem _ member)
      have rights : ∀ x ∈ bs, x.isDigit = true := fun x member =>
        right x (List.mem_cons_of_mem _ member)
      have tails : as.length = bs.length := Nat.succ.inj lengths
      rw [Nat.ofDigitChars_cons, Nat.ofDigitChars_cons] at less
      rcases Nat.lt_trichotomy c.toNat d.toNat with before | same | after
      · exact List.Lex.rel before
      · obtain rfl : c = d := Char.toNat_inj.mp same
        exact List.Lex.cons (ih tails lefts rights less)
      · have bottom : 48 ≤ d.toNat := (Char.isDigit_iff_toNat.mp (right d (by simp))).1
        have zero : '0'.toNat = 48 := rfl
        exact absurd less (Nat.lt_asymm (ofDigitChars_lt tails.symm rights lefts (by omega)))

end EffectPrograms.Decimal
