import EffectPrograms.Decimal.Binary64

set_option autoImplicit false

namespace EffectPrograms.Decimal

structure Digits where
  digits : List Char
  exponent : Int
deriving DecidableEq

-- A positive number `num / den` with the ends of the interval that rounds to it.
structure Rounding where
  low : Nat
  value : Nat
  high : Nat
  den : Nat
  closed : Bool

-- The interval around a number; it is closed where ties go to the number itself.
def Rounding.of (x : Binary64) : Rounding :=
  let m := x.significand
  let step := Nat.pow 2 x.place
  let below := if m = Binary64.leastNormal ∧ x.place ≠ 0 then 1 else 2
  ⟨(4 * m - below) * step, 4 * m * step, (4 * m + 2) * step, 4 * Binary64.leastDenominator,
    m % 2 == 0⟩

-- Whether `point * grid` rounds to the number, the grid being `up / down`.
def Rounding.holds (r : Rounding) (up down point : Nat) : Bool :=
  let scaled := point * up * r.den
  if r.closed then decide (r.low * down ≤ scaled ∧ scaled ≤ r.high * down)
  else decide (r.low * down < scaled ∧ scaled < r.high * down)

-- The point of a grid nearest to the number among its two neighbours that round to it.
def Rounding.point? (r : Rounding) (up down : Nat) : Option Nat :=
  let below := r.value * down / (up * r.den)
  let rest := 2 * (r.value * down % (up * r.den))
  let upward :=
    if rest < up * r.den then false
    else if up * r.den < rest then true
    else below % 2 == 1
  match r.holds up down below, r.holds up down (below + 1) with
  | true, true => some (if upward then below + 1 else below)
  | true, false => some below
  | false, true => some (below + 1)
  | false, false => none

def grid (exponent : Int) (digits : Nat) : Nat × Nat :=
  let power := exponent - (digits : Int) + 1
  if 0 ≤ power then (Nat.pow 10 power.toNat, 1) else (1, Nat.pow 10 (-power).toNat)

def Rounding.exponent (r : Rounding) : Nat → Int → Int
  | 0, top => top
  | fuel + 1, top =>
      let (up, down) := grid top 1
      if up * r.den ≤ r.value * down then top else r.exponent fuel (top - 1)

def trimZeros (digits : List Char) : List Char := (digits.reverse.dropWhile (· == '0')).reverse

def Rounding.search (r : Rounding) (exponent : Int) : Nat → Nat → Digits
  | 0, _ => ⟨['0'], 0⟩
  | fuel + 1, count =>
      let (up, down) := grid exponent count
      match r.point? up down with
      | some point =>
          let digits := Nat.toDigits 10 point
          ⟨trimZeros digits, exponent + ((digits.length - count : Nat) : Int)⟩
      | none => r.search exponent fuel (count + 1)

-- An exponent that is at most four above the one sought.
def topExponent (x : Binary64) : Int :=
  ((x.place : Int) + Nat.log2 x.significand - 1074) * 30103 / 100000 + 2

def shortest (x : Binary64) : Digits :=
  let r := Rounding.of x
  r.search (r.exponent 8 (topExponent x)) 17 1

def pointed (whole fraction : List Char) : List Char :=
  whole ++ '.' :: (if fraction.isEmpty then ['0'] else fraction)

def Digits.written (d : Digits) : List Char :=
  if 0 ≤ d.exponent ∧ d.exponent ≤ 15 then
    let places := d.exponent.toNat + 1
    pointed ((d.digits ++ List.replicate (places - d.digits.length) '0').take places)
      (d.digits.drop places)
  else if -5 ≤ d.exponent ∧ d.exponent < 0 then
    pointed ['0'] (List.replicate ((-d.exponent).toNat - 1) '0' ++ d.digits)
  else
    let mantissa :=
      if d.digits.length ≤ 1 then d.digits else pointed (d.digits.take 1) (d.digits.drop 1)
    let sign := if 0 ≤ d.exponent then '+' else '-'
    mantissa ++ 'e' :: sign :: Nat.toDigits 10 d.exponent.natAbs

def written (x : Binary64) : List Char :=
  (if x.negative then ['-'] else []) ++
    (if x.isZero then ['0', '.', '0'] else (shortest x).written)

end EffectPrograms.Decimal
