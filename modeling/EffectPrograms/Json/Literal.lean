import EffectPrograms.Bytes

set_option autoImplicit false

namespace EffectPrograms.Json

-- An escaped surrogate may lack its other half, and a control character may stand unescaped.
inductive Mark where
  | plain (c : Char)
  | control (c : Char)
  | half (unit : Nat)
deriving DecidableEq

abbrev Literal := List Mark

namespace Mark

def ofUnit (unit : Nat) : Mark :=
  if unit < 0xD800 ∨ 0xE000 ≤ unit then plain (Char.ofNat unit) else half unit

def ofChar (c : Char) : Mark := if c.toNat < 32 then control c else plain c

def isControl : Mark → Bool
  | control _ => true
  | _ => false

-- Half of a pair is encoded in three bytes, as any character of its size.
def bytes : Mark → Bytes
  | plain c | control c => String.utf8EncodeChar c
  | half unit =>
      [UInt8.ofNat (0xE0 + unit / 0x1000), UInt8.ofNat (0x80 + unit / 0x40 % 0x40),
        UInt8.ofNat (0x80 + unit % 0x40)]

end Mark

namespace Literal

-- Puts a mark in front; the halves of a pair join.
def put : Mark → Literal → Literal
  | .half high, .half low :: rest =>
      if high < 0xDC00 ∧ 0xDC00 ≤ low then
        .plain (Char.ofNat (0x10000 + (high - 0xD800) * 0x400 + (low - 0xDC00))) :: rest
      else .half high :: .half low :: rest
  | mark, rest => mark :: rest

def chars? : Literal → Option (List Char)
  | [] => some []
  | .plain c :: rest => (chars? rest).map (c :: ·)
  | _ => none

def text? (literal : Literal) : Option String := literal.chars?.map String.ofList

def bytes (literal : Literal) : Bytes := literal.flatMap Mark.bytes

def isClean (literal : Literal) : Bool := literal.all fun mark => !mark.isControl

theorem chars?_plain (cs : List Char) : chars? (cs.map .plain) = some cs := by
  induction cs with
  | nil => rfl
  | cons c rest ih => simp [chars?, ih]

theorem text?_plain (text : String) : text? (text.toList.map .plain) = some text := by
  simp [text?, chars?_plain]

end Literal
end EffectPrograms.Json
