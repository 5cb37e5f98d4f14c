import EffectPrograms.Json.Part

set_option autoImplicit false

namespace EffectPrograms

inductive Removal where
  | removed
  | absent
deriving DecidableEq

namespace Removal

def ofExisted (existed : Bool) : Removal := if existed then removed else absent

def toJson : Removal → Json
  | removed => .string "removed"
  | absent => .string "absent"

def read? (part : Json.Part) : Option Removal := do
  let name ← part.name?
  if name = "removed" then some removed
  else if name = "absent" then some absent
  else none

def debug : Removal → List Char
  | removed => "Removed".toList
  | absent => "Absent".toList

end Removal
end EffectPrograms
