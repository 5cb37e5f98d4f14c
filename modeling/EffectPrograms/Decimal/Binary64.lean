set_option autoImplicit false

namespace EffectPrograms

-- A finite number of the 64-bit format: its sign, and its place in the order of the magnitudes. So
-- rounding a ratio half to even is rounding a quotient.
structure Binary64 where
  negative : Bool
  magnitude : Nat
  finite : magnitude < 0x7ff0000000000000
deriving DecidableEq

namespace Binary64

def zero : Binary64 := ⟨false, 0, by decide⟩

instance : Inhabited Binary64 := ⟨zero⟩

def neg (x : Binary64) : Binary64 := { x with negative := !x.negative }

def isZero (x : Binary64) : Bool := x.magnitude == 0

def plainZero (x : Binary64) : Binary64 := if x.isZero then zero else x

def leastNormal : Nat := 0x10000000000000

def place (x : Binary64) : Nat := x.magnitude / leastNormal - 1

def significand (x : Binary64) : Nat :=
  if x.magnitude < leastNormal then x.magnitude else leastNormal + x.magnitude % leastNormal

-- The magnitude as a multiple of the least positive number of the format, `2 ^ -1074`.
def units (x : Binary64) : Nat := x.significand * Nat.pow 2 x.place

def leastDenominator : Nat := Nat.pow 2 1074

-- The whole number nearest to a quotient, of two the even one.
def roundQuotient (num den : Nat) : Nat :=
  let quotient := num / den
  let twice := 2 * (num % den)
  if twice < den then quotient
  else if den < twice then quotient + 1
  else quotient + quotient % 2

def nearestMagnitude (num den : Nat) : Nat :=
  let scaled := num * leastDenominator
  let place := Nat.log2 (scaled / den) - 52
  place * leastNormal + roundQuotient scaled (den * Nat.pow 2 place)

def ofRatio? (negative : Bool) (num den : Nat) : Option Binary64 :=
  if finite : nearestMagnitude num den < 0x7ff0000000000000 then
    some ⟨negative, nearestMagnitude num den, finite⟩
  else none

def mul? (x y : Binary64) : Option Binary64 :=
  ofRatio? (x.negative != y.negative) (x.units * y.units) (leastDenominator * leastDenominator)

def div? (x y : Binary64) : Option Binary64 :=
  ofRatio? (x.negative != y.negative) x.units y.units

end Binary64
end EffectPrograms
