import EffectPrograms.Json.Part
import EffectPrograms.Text.Form

set_option autoImplicit false

namespace EffectPrograms

structure Duration where
  secs : Nat
  nanos : Nat
  nanos_lt : nanos < 1000000000 := by omega
deriving DecidableEq

namespace Duration

def ofSecs (secs : Nat) : Duration := ⟨secs, 0, by decide⟩

def inNanos (d : Duration) : Nat := d.secs * 1000000000 + d.nanos

def isZero (d : Duration) : Bool := d.secs == 0 && d.nanos == 0

-- The least whole number of seconds that is not shorter.
def ceiling (d : Duration) : Nat := if d.nanos = 0 then d.secs else d.secs + 1

-- Nanoseconds beyond a second are carried; the seconds must stay below `2 ^ 64`.
def carried? (secs nanos : Nat) : Option Duration :=
  if secs + nanos / 1000000000 < 0x10000000000000000 then
    some ⟨secs + nanos / 1000000000, nanos % 1000000000, Nat.mod_lt _ (by decide)⟩
  else none

theorem isZero_iff (d : Duration) : d.isZero = true ↔ d.inNanos = 0 := by
  simp only [isZero, inNanos, Bool.and_eq_true, beq_iff_eq]
  omega

theorem inNanos_ofSecs (secs : Nat) : (ofSecs secs).inNanos = secs * 1000000000 := by
  rw [inNanos, ofSecs, Nat.add_zero]

theorem inNanos_le_iff_ceiling_le (d : Duration) (limit : Nat) :
    d.inNanos ≤ limit * 1000000000 ↔ d.ceiling ≤ limit := by
  have small := d.nanos_lt
  simp only [inNanos, ceiling]
  split <;> omega

def fraction (places part : Nat) : List Char :=
  let digits := Nat.toDigits 10 part
  let padded := List.replicate (places - digits.length) '0' ++ digits
  let kept := (padded.reverse.dropWhile (· == '0')).reverse
  if kept.isEmpty then [] else '.' :: kept

-- The exact value in the largest of `s`, `ms`, `µs` and `ns` that it fills.
def debug (d : Duration) : List Char :=
  let shown (whole places part : Nat) (unit : String) :=
    Nat.toDigits 10 whole ++ fraction places part ++ unit.toList
  if d.secs > 0 then shown d.secs 9 d.nanos "s"
  else if d.nanos ≥ 1000000 then shown (d.nanos / 1000000) 6 (d.nanos % 1000000) "ms"
  else if d.nanos ≥ 1000 then shown (d.nanos / 1000) 3 (d.nanos % 1000) "µs"
  else shown d.nanos 0 0 "ns"

def toJson (d : Duration) : Json := .object [("secs", .nat d.secs), ("nanos", .nat d.nanos)]

-- Both fields are needed and no other is allowed.
def read? (part : Json.Part) : Option Duration := do
  let closed :=
    match ← part.value? with
    | .object members => members.all fun member => member.1 == "secs" || member.1 == "nanos"
    | _ => true
  if closed then
    let [secs, nanos] ← part.fields? ["secs", "nanos"] | none
    carried? (← Json.neededField? (Json.Part.bits? 64) secs)
      (← Json.neededField? (Json.Part.bits? 32) nanos)
  else none

end Duration
end EffectPrograms
