import EffectPrograms.Date
import EffectPrograms.Text.Blank

set_option autoImplicit false

namespace EffectPrograms

-- The fields of a moment. A leap second is the second 59 with nanoseconds from a whole second on.
structure Moment where
  date : Date
  hour : Nat
  minute : Nat
  second : Nat
  nanos : Nat
deriving DecidableEq

namespace Moment

def isValid (m : Moment) : Bool :=
  m.date.isValid && decide (m.hour < 24) && decide (m.minute < 60) && decide (m.second < 60) &&
    decide (m.nanos < 1000000000 ∨ (m.second = 59 ∧ m.nanos < 2000000000))

-- The moment a number of minutes earlier, at most a day apart.
def earlier (m : Moment) (minutes : Int) : Moment :=
  let total := ((m.hour * 60 + m.minute : Nat) : Int) - minutes
  let date :=
    if total < 0 then m.date.previous else if total < 1440 then m.date else m.date.next
  let within := (total % 1440).toNat
  { m with date, hour := within / 60, minute := within % 60 }

end Moment

structure Timestamp where
  moment : Moment
  valid : moment.isValid = true
deriving DecidableEq

namespace Timestamp

def ofMoment? (moment : Moment) : Option Timestamp :=
  if valid : moment.isValid = true then some ⟨moment, valid⟩ else none

def epoch : Timestamp := ⟨⟨⟨1970, 1, 1⟩, 0, 0, 0, 0⟩, by decide⟩

instance : Inhabited Timestamp := ⟨epoch⟩

def padded (width n : Nat) : List Char :=
  let digits := Nat.toDigits 10 n
  List.replicate (width - digits.length) '0' ++ digits

def writtenYear (year : Int) : List Char :=
  if 0 ≤ year ∧ year ≤ 9999 then padded 4 year.toNat
  else (if 0 ≤ year then '+' else '-') :: padded 4 year.natAbs

def writtenFraction (nanos : Nat) : List Char :=
  if nanos = 0 then []
  else if nanos % 1000000 = 0 then '.' :: padded 3 (nanos / 1000000)
  else if nanos % 1000 = 0 then '.' :: padded 6 (nanos / 1000)
  else '.' :: padded 9 nanos

def written (t : Timestamp) : List Char :=
  let m := t.moment
  let leap := decide (1000000000 ≤ m.nanos)
  writtenYear m.date.year ++ '-' :: padded 2 m.date.month ++ '-' :: padded 2 m.date.day ++
    'T' :: padded 2 m.hour ++ ':' :: padded 2 m.minute ++
    ':' :: padded 2 (if leap then m.second + 1 else m.second) ++
    writtenFraction (if leap then m.nanos - 1000000000 else m.nanos) ++ ['Z']

def text (t : Timestamp) : String := String.ofList t.written

def number? (width : Nat) (cs : List Char) : Option (Nat × List Char) :=
  let digits := (cs.take width).takeWhile Char.isDigit
  if digits.isEmpty then none
  else some (Nat.ofDigitChars 10 digits 0, cs.drop digits.length)

-- A year of four digits, or of any number after a sign.
def year? (cs : List Char) : Option (Int × List Char) :=
  match Text.skipBlanks cs with
  | '-' :: rest => (number? rest.length rest).map fun (n, left) => (-(n : Int), left)
  | '+' :: rest => (number? rest.length rest).map fun (n, left) => ((n : Int), left)
  | rest => (number? 4 rest).map fun (n, left) => ((n : Int), left)

def part? (cs : List Char) : Option (Nat × List Char) := number? 2 (Text.skipBlanks cs)

def mark? (mark : Char) (cs : List Char) : Option (List Char) :=
  match Text.skipBlanks cs with
  | c :: rest => if c = mark then some rest else none
  | [] => none

-- Digits of a fraction in nanoseconds; those after the ninth are passed over.
def fraction? : List Char → Option (Nat × List Char)
  | '.' :: rest =>
      let digits := (rest.take 9).takeWhile Char.isDigit
      if digits.isEmpty then none
      else
        some (Nat.ofDigitChars 10 digits 0 * Nat.pow 10 (9 - digits.length),
          rest.dropWhile Char.isDigit)
  | rest => some (0, rest)

def signedOffset? (east : Bool) : List Char → Option (Int × List Char)
  | a :: b :: rest =>
      match rest.dropWhile fun c => c == ':' || Text.isBlank c with
      | c :: d :: rest =>
          if [a, b, c, d].all Char.isDigit && decide (c < '6') then
            let minutes := Nat.ofDigitChars 10 [a, b] 0 * 60 + Nat.ofDigitChars 10 [c, d] 0
            if minutes < 1440 then some (if east then minutes else -minutes, rest) else none
          else none
      | _ => none
  | _ => none

-- An offset in minutes: `Z`, `UTC`, or a sign with hours and minutes.
def offset? : List Char → Option (Int × List Char)
  | [] => none
  | c :: rest =>
      let word := String.ofList ((c :: rest).take 3)
      if word.toUpper = "UTC" then some (0, rest.drop 2)
      else if c = 'Z' ∨ c = 'z' then some (0, rest)
      else if c = '+' then signedOffset? true rest
      else if c = '-' ∨ c = '\u2212' then signedOffset? false rest
      else none

def separator? : List Char → Option (List Char)
  | c :: rest => if c = 'T' ∨ c = 't' ∨ c = ' ' then some rest else none
  | [] => none

def read? (text : String) : Option Timestamp := do
  let (year, cs) ← year? text.toList
  let cs ← mark? '-' cs
  let (month, cs) ← part? cs
  let cs ← mark? '-' cs
  let (day, cs) ← part? cs
  let cs ← separator? cs
  let (hour, cs) ← part? cs
  let cs ← mark? ':' cs
  let (minute, cs) ← part? cs
  let cs ← mark? ':' cs
  let (second, cs) ← part? cs
  let (nanos, cs) ← fraction? cs
  let (offset, cs) ← offset? (Text.skipBlanks cs)
  if Text.skipBlanks cs ≠ [] then none
  let local_ ← ofMoment? <|
    if second = 60 then ⟨⟨year, month, day⟩, hour, minute, 59, nanos + 1000000000⟩
    else ⟨⟨year, month, day⟩, hour, minute, second, nanos⟩
  ofMoment? (local_.moment.earlier offset)

end Timestamp
end EffectPrograms
