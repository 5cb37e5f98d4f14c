import EffectPrograms.Proofs.Numerals
import EffectPrograms.Timestamp

set_option autoImplicit false

namespace EffectPrograms

namespace Text

theorem isBlank_of_isDigit {c : Char} (digit : c.isDigit = true) : isBlank c = false := by
  have bounds : 48 ≤ c.toNat ∧ c.toNat ≤ 57 := Char.isDigit_iff_toNat.mp digit
  simp [isBlank, blankRanges]
  omega

theorem skipBlanks_digits {digits : List Char} (filled : digits ≠ [])
    (all : ∀ c ∈ digits, c.isDigit = true) (rest : List Char) :
    skipBlanks (digits ++ rest) = digits ++ rest := by
  cases digits with
  | nil => exact absurd rfl filled
  | cons c digits => simp [skipBlanks, isBlank_of_isDigit (all c List.mem_cons_self)]

end Text

namespace Timestamp
open Decimal

section Fields
variable {digits : List Char}

theorem number?_digits (filled : digits ≠ []) (all : ∀ c ∈ digits, c.isDigit = true)
    (rest : List Char) :
    number? digits.length (digits ++ rest) = some (Nat.ofDigitChars 10 digits 0, rest) := by
  have taken : ((digits ++ rest).take digits.length).takeWhile Char.isDigit = digits := by
    have kept : (digits ++ []).takeWhile Char.isDigit = digits ++ [].takeWhile Char.isDigit :=
      List.takeWhile_append_of_pos all
    rw [List.take_left]
    simpa using kept
  simp only [number?, taken, List.isEmpty_eq_false_iff.mpr filled, List.drop_left]
  rfl

theorem padded_filled {width : Nat} (positive : 0 < width) {n : Nat}
    (small : n < Nat.pow 10 width) : padded width n ≠ [] := by
  intro empty
  have length : (padded width n).length = width := length_zeros positive small
  rw [empty] at length
  exact Nat.ne_of_lt positive length

theorem number?_padded {width : Nat} (positive : 0 < width) {n : Nat}
    (small : n < Nat.pow 10 width) (rest : List Char) :
    number? width (padded width n ++ rest) = some (n, rest) := by
  have length : (padded width n).length = width := length_zeros positive small
  have read := number?_digits (padded_filled positive small) (fun _ => isDigit_of_mem_zeros) rest
  rwa [length, show Nat.ofDigitChars 10 (padded width n) 0 = n from ofDigitChars_zeros ..] at read

theorem skipBlanks_padded {width : Nat} (positive : 0 < width) {n : Nat}
    (small : n < Nat.pow 10 width) (rest : List Char) :
    Text.skipBlanks (padded width n ++ rest) = padded width n ++ rest :=
  Text.skipBlanks_digits (padded_filled positive small) (fun _ => isDigit_of_mem_zeros) rest

theorem part?_padded {n : Nat} (small : n < 100) (rest : List Char) :
    part? (padded 2 n ++ rest) = some (n, rest) := by
  rw [part?, skipBlanks_padded (by decide) small]
  exact number?_padded (by decide) small rest

theorem year?_padded {n : Nat} (small : n < 10000) (rest : List Char) :
    year? (padded 4 n ++ rest) = some ((n : Int), rest) := by
  have read : number? 4 (padded 4 n ++ rest) = some (n, rest) :=
    number?_padded (by decide) small rest
  have all : ∀ c ∈ padded 4 n, c.isDigit = true := fun _ => isDigit_of_mem_zeros
  rw [year?, skipBlanks_padded (by decide) small]
  cases shown : padded 4 n with
  | nil => exact absurd shown (padded_filled (by decide) small)
  | cons c others =>
    have digit : c.isDigit = true := all c (by simp [shown])
    rw [shown, List.cons_append] at read
    rw [List.cons_append]
    split
    · next same =>
      rw [(List.cons.inj same).1] at digit
      cases digit
    · next same =>
      rw [(List.cons.inj same).1] at digit
      cases digit
    · rw [read]
      rfl

theorem fraction?_digits (filled : digits ≠ []) (all : ∀ c ∈ digits, c.isDigit = true)
    (few : digits.length ≤ 9) :
    fraction? ('.' :: (digits ++ ['Z'])) =
      some (Nat.ofDigitChars 10 digits 0 * Nat.pow 10 (9 - digits.length), ['Z']) := by
  have stop (k : Nat) : (['Z'].take k).takeWhile Char.isDigit = [] := by
    cases k <;> rfl
  have taken : ((digits ++ ['Z']).take 9).takeWhile Char.isDigit = digits := by
    rw [List.take_append, List.take_of_length_le few, List.takeWhile_append_of_pos all, stop,
      List.append_nil]
  have left : (digits ++ ['Z']).dropWhile Char.isDigit = ['Z'] := by
    rw [List.dropWhile_append_of_pos all]
    rfl
  simp [fraction?, taken, left, filled]

theorem fraction?_padded {width : Nat} (positive : 0 < width) (few : width ≤ 9) {n : Nat}
    (small : n < Nat.pow 10 width) :
    fraction? ('.' :: (padded width n ++ ['Z'])) =
      some (n * Nat.pow 10 (9 - width), ['Z']) := by
  have length : (padded width n).length = width := length_zeros positive small
  have read := fraction?_digits (padded_filled positive small)
    (fun _ => isDigit_of_mem_zeros) (Nat.le_trans (Nat.le_of_eq length) few)
  rwa [length, show Nat.ofDigitChars 10 (padded width n) 0 = n from ofDigitChars_zeros ..] at read

theorem fraction?_written {nanos : Nat} (small : nanos < 1000000000) :
    fraction? (writtenFraction nanos ++ ['Z']) = some (nanos, ['Z']) := by
  unfold writtenFraction
  split
  · next zero =>
    rw [zero]
    rfl
  · split
    · next millis =>
      have whole : nanos / 1000000 * 1000000 = nanos := by omega
      rw [List.cons_append,
        fraction?_padded (by decide) (by decide) (Nat.div_lt_of_lt_mul small)]
      exact congrArg (fun n => some (n, ['Z'])) whole
    · split
      · next micros =>
        have whole : nanos / 1000 * 1000 = nanos := by omega
        rw [List.cons_append,
          fraction?_padded (by decide) (by decide) (Nat.div_lt_of_lt_mul small)]
        exact congrArg (fun n => some (n, ['Z'])) whole
      · rw [List.cons_append, fraction?_padded (by decide) (by decide) small]
        exact congrArg (fun n => some (n, ['Z'])) (Nat.mul_one nanos)

end Fields

-- A year of four digits, and no leap second.
structure Plain (t : Timestamp) : Prop where
  first : 0 ≤ t.moment.date.year
  last : t.moment.date.year ≤ 9999
  nanos : t.moment.nanos < 1000000000

theorem written_plain {t : Timestamp} (plain : t.Plain) :
    t.written = padded 4 t.moment.date.year.toNat ++ '-' :: (padded 2 t.moment.date.month ++
      '-' :: (padded 2 t.moment.date.day ++ 'T' :: (padded 2 t.moment.hour ++
        ':' :: (padded 2 t.moment.minute ++ ':' :: (padded 2 t.moment.second ++
          (writtenFraction t.moment.nanos ++ ['Z'])))))) := by
  have common : ¬ 1000000000 ≤ t.moment.nanos := Nat.not_le.mpr plain.nanos
  simp [written, writtenYear, plain.first, plain.last, common]

theorem mark?_self {mark : Char} (solid : Text.isBlank mark = false) (rest : List Char) :
    mark? mark (mark :: rest) = some rest := by
  simp [mark?, Text.skipBlanks, solid]

theorem offset?_zulu : offset? ['Z'] = some (0, []) := by
  decide +kernel

-- Every field after the year has two digits.
theorem ranges (t : Timestamp) :
    t.moment.date.month < 100 ∧ t.moment.date.day < 100 ∧ t.moment.hour < 24 ∧
      t.moment.minute < 60 ∧ t.moment.second < 60 := by
  have valid := t.valid
  simp only [Moment.isValid, Date.isValid, Bool.and_eq_true, decide_eq_true_eq] at valid
  obtain ⟨⟨⟨⟨⟨⟨_, _, month⟩, _, day⟩, hour⟩, minute⟩, second⟩, _⟩ := valid
  have days : Date.daysIn t.moment.date.year t.moment.date.month ≤ 31 := by
    unfold Date.daysIn
    split
    · split <;> decide
    · split <;> decide
  exact ⟨by omega, by omega, hour, minute, second⟩

theorem earlier_zero {m : Moment} (hour : m.hour < 24) (minute : m.minute < 60) :
    m.earlier 0 = m := by
  have day : m.hour * 60 + m.minute < 1440 := by omega
  have within : ((m.hour * 60 + m.minute : Nat) % (1440 : Int)).toNat =
      m.hour * 60 + m.minute := by omega
  have parts : (m.hour * 60 + m.minute) / 60 = m.hour ∧
      (m.hour * 60 + m.minute) % 60 = m.minute := by omega
  simp only [Moment.earlier, Int.sub_zero, within, parts]
  rw [if_neg (by omega), if_pos (by omega)]

theorem ofMoment?_moment (t : Timestamp) : ofMoment? t.moment = some t := dif_pos t.valid

-- A field that is read; the rest is read after it.
theorem bind_read {α β : Type} {first : Option α} {next : α → Option β} {found : α} {result : β}
    (read : first = some found) (rest : next found = some result) :
    (first >>= next) = some result :=
  Option.bind_eq_some_iff.mpr ⟨found, read, rest⟩

theorem read?_text {t : Timestamp} (plain : t.Plain) : read? t.text = some t := by
  obtain ⟨month, day, hour, minute, second⟩ := ranges t
  have four : t.moment.date.year.toNat < 10000 := by
    have last := plain.last
    omega
  have year : ((t.moment.date.year.toNat : Nat) : Int) = t.moment.date.year :=
    Int.toNat_of_nonneg plain.first
  have dash (rest : List Char) : mark? '-' ('-' :: rest) = some rest := mark?_self rfl rest
  have colon (rest : List Char) : mark? ':' (':' :: rest) = some rest := mark?_self rfl rest
  have letter (rest : List Char) : separator? ('T' :: rest) = some rest := rfl
  rw [read?, text, String.toList_ofList, written_plain plain]
  refine bind_read (year?_padded four _) (bind_read (dash _) ?_)
  refine bind_read (part?_padded month _) (bind_read (dash _) ?_)
  refine bind_read (part?_padded day _) (bind_read (letter _) ?_)
  refine bind_read (part?_padded (Nat.lt_trans hour (by decide)) _) (bind_read (colon _) ?_)
  refine bind_read (part?_padded (Nat.lt_trans minute (by decide)) _) (bind_read (colon _) ?_)
  refine bind_read (part?_padded (Nat.lt_trans second (by decide)) _) ?_
  refine bind_read (fraction?_written plain.nanos) (bind_read offset?_zulu ?_)
  have nothing : ¬ Text.skipBlanks [] ≠ [] := fun left => left rfl
  dsimp only
  rw [if_neg nothing, if_neg (Nat.ne_of_lt second), year]
  -- The fields that were read are those of the moment, which is its own local time.
  refine bind_read (ofMoment?_moment t) ?_
  rw [earlier_zero hour minute]
  exact ofMoment?_moment t

end Timestamp
end EffectPrograms
