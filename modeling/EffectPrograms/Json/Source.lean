import EffectPrograms.Json.Basic
import EffectPrograms.Json.Literal

set_option autoImplicit false

namespace EffectPrograms.Json

-- A value as a text writes it. Its flaws, such as a number out of range, matter only where it is used.
inductive Source where
  | null
  | bool (value : Bool)
  | number (value : Option Number)
  | string (literal : Literal)
  | array (items : List Source)
  | object (members : List (Literal × Source))

namespace Source

instance : Inhabited Source := ⟨null⟩

mutual
def value? : Source → Nat → Option Json
  | null, _ => some .null
  | bool value, _ => some (.bool value)
  | number value, _ => value.map .number
  | string literal, _ => literal.text?.map .string
  | array items, depth + 1 => (values? items depth).map .array
  | object members, depth + 1 => (memberValues? members depth).map .object
  | array _, 0 | object _, 0 => none
def values? : List Source → Nat → Option (List Json)
  | [], _ => some []
  | item :: rest, depth =>
      match value? item depth, values? rest depth with
      | some value, some values => some (value :: values)
      | _, _ => none
def memberValues? : List (Literal × Source) → Nat → Option (List (String × Json))
  | [], _ => some []
  | (name, item) :: rest, depth =>
      match name.text?, value? item depth, memberValues? rest depth with
      | some name, some value, some values => some ((name, value) :: values)
      | _, _, _ => none
end

mutual
-- Whether the value may be passed over: no control character stands unescaped in it.
def isClean : Source → Bool
  | null | bool _ | number _ => true
  | string literal => literal.isClean
  | array items => areClean items
  | object members => membersAreClean members
def areClean : List Source → Bool
  | [] => true
  | item :: rest => isClean item && areClean rest
def membersAreClean : List (Literal × Source) → Bool
  | [] => true
  | (name, item) :: rest => name.isClean && isClean item && membersAreClean rest
end

def maxDepth : Nat := 127

end Source
end EffectPrograms.Json
