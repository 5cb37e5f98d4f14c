import EffectPrograms.Text.Hex

set_option autoImplicit false

namespace EffectPrograms

abbrev Bytes := List UInt8

namespace Bytes

def ofText (text : String) : Bytes := text.toByteArray.data.toList

def text? (bytes : Bytes) : Option String := String.fromUTF8? ⟨bytes.toArray⟩

def hex (bytes : Bytes) : String := String.ofList (bytes.flatMap Text.hexByte)

def quotedByte (b : UInt8) : List Char :=
  if b = 10 then ['\\', 'n']
  else if b = 13 then ['\\', 'r']
  else if b = 9 then ['\\', 't']
  else if b = 92 then ['\\', '\\']
  else if b = 34 then ['\\', '"']
  else if b = 0 then ['\\', '0']
  else if 32 ≤ b ∧ b < 127 then [Char.ofNat b.toNat]
  else '\\' :: 'x' :: Text.hexByte b

-- Printable ASCII stands for itself, other bytes are escaped.
def quoted (bytes : Bytes) : List Char := 'b' :: '"' :: (bytes.flatMap quotedByte ++ ['"'])

theorem ofText_eq (text : String) : ofText text = text.toList.flatMap String.utf8EncodeChar := by
  have encoded : text.toByteArray = text.toList.utf8Encode := by
    rw [← String.toByteArray_ofList, String.ofList_toList]
  simp [ofText, encoded, List.utf8Encode]

theorem text?_ofText (text : String) : text? (ofText text) = some text := by
  have whole : (⟨(ofText text).toArray⟩ : ByteArray) = text.toByteArray := by
    simp [ofText]
  rw [text?, whole, String.fromUTF8?, dif_pos text.isValidUTF8]
  rfl

end Bytes
end EffectPrograms
