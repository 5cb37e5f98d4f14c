import EffectPrograms.Decimal.Binary64

set_option autoImplicit false

namespace EffectPrograms.Decimal

def digitValue (c : Char) : Nat := c.toNat - 48

structure Numeral where
  negative : Bool
  whole : List Char
  fraction : List Char
  exponent : Option (Bool × List Char)
deriving DecidableEq

-- Takes up digits while the number stays below `2 ^ 64`; answers how many are left.
def absorb (number : Nat) : List Char → Nat × Nat
  | [] => (number, 0)
  | c :: rest =>
      let next := number * 10 + digitValue c
      if next < 0x10000000000000000 then absorb next rest else (number, rest.length + 1)

def powerOfTen (k : Nat) : Binary64 := (Binary64.ofRatio? false (Nat.pow 10 k) 1).getD .zero

-- A number divided by a power of ten, in steps of at most `10 ^ 308`.
def shrink (x : Binary64) (k : Nat) : Binary64 :=
  if k ≤ 308 then (x.div? (powerOfTen k)).getD .zero
  else if x.isZero then x
  else shrink ((x.div? (powerOfTen 308)).getD .zero) (k - 308)
termination_by k

def grow? (x : Binary64) (k : Nat) : Option Binary64 :=
  if k ≤ 308 then x.mul? (powerOfTen k)
  else if x.isZero then some x
  else none

def scale? (x : Binary64) (exponent : Int) : Option Binary64 :=
  if 0 ≤ exponent then grow? x exponent.toNat else some (shrink x (-exponent).toNat)

-- The value as a number of the 64-bit format; none where it lies beyond.
def Numeral.float? (n : Numeral) : Option Binary64 :=
  let (whole, spare) := absorb 0 n.whole
  let (number, left) := absorb whole n.fraction
  let places : Int := (spare : Int) - ((n.fraction.length - left : Nat) : Int)
  let signed (x : Binary64) : Binary64 := if n.negative then x.neg else x
  let start := (Binary64.ofRatio? false number 1).getD .zero
  match n.exponent with
  | none => (scale? start places).map signed
  | some (below, digits) =>
      let size := Nat.ofDigitChars 10 digits 0
      if size < 0x80000000 then
        (scale? start (if below then places - size else places + size)).map signed
      else if number ≠ 0 ∧ below = false then none
      else some (signed .zero)

end EffectPrograms.Decimal
