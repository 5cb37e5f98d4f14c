import EffectPrograms.Json.Printer
import EffectPrograms.Text.Form

set_option autoImplicit false

namespace EffectPrograms.Json
open Text

mutual
def debug : Json → List Char
  | .null => "Null".toList
  | .bool value => Form.applied "Bool" (toString value).toList
  | .number n => Form.applied "Number" n.written
  | .string text => Form.applied "String" (Text.quoted text)
  | .array items => "Array ".toList ++ Form.list (debugItems items)
  | .object members => "Object ".toList ++ Form.mapping (debugMembers members)
def debugItems : List Json → List (List Char)
  | [] => []
  | item :: rest => debug item :: debugItems rest
def debugMembers : List (String × Json) → List (String × List Char)
  | [] => []
  | (name, value) :: rest => (name, debug value) :: debugMembers rest
end

end EffectPrograms.Json
