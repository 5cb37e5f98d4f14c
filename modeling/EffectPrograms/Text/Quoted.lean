import EffectPrograms.Text.Hex
import EffectPrograms.Text.Printable

set_option autoImplicit false

namespace EffectPrograms.Text

def hexNumber (n : Nat) : List Char := Nat.toDigits 16 n

def quotedChar (c : Char) : List Char :=
  if c = '\x00' then ['\\', '0']
  else if c = '\t' then ['\\', 't']
  else if c = '\r' then ['\\', 'r']
  else if c = '\n' then ['\\', 'n']
  else if c = '\\' then ['\\', '\\']
  else if c = '"' then ['\\', '"']
  else if isShown c then [c]
  else ['\\', 'u', '\x7b'] ++ hexNumber c.toNat ++ ['\x7d']

def quoted (text : String) : List Char := '"' :: (text.toList.flatMap quotedChar ++ ['"'])

end EffectPrograms.Text
