import EffectPrograms.Bytes
import EffectPrograms.Json.Basic

set_option autoImplicit false

namespace EffectPrograms.Json
variable {α : Type}

def readText? : Json → Option String
  | .string text => some text
  | _ => none

def readBool? : Json → Option Bool
  | .bool value => some value
  | _ => none

def readBelow? (bound : Nat) : Json → Option Nat
  | .number (.whole (.ofNat n)) => if n < bound then some n else none
  | _ => none

def readBits? (bits : Nat) : Json → Option Nat := readBelow? (Nat.pow 2 bits)

def readAll? {β : Type} (read : β → Option α) : List β → Option (List α)
  | [] => some []
  | item :: rest =>
      match read item, readAll? read rest with
      | some first, some others => some (first :: others)
      | _, _ => none

def readByte? (value : Json) : Option UInt8 := (readBelow? 256 value).map UInt8.ofNat

-- Bytes stand as a list of numbers; a text stands for its UTF-8 bytes.
def readBytes? : Json → Option Bytes
  | .string text => some (Bytes.ofText text)
  | .array items => readAll? readByte? items
  | _ => none

def optional (write : α → Json) : Option α → Json
  | none => .null
  | some value => write value

def bytes (bytes : Bytes) : Json := .array (bytes.map fun b => .nat b.toNat)

def tagged (tag content name : String) (value : Json) : Json :=
  .object [(tag, .string name), (content, value)]

end EffectPrograms.Json
