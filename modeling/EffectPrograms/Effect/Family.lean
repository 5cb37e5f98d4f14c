import EffectPrograms.Json.Part

set_option autoImplicit false

namespace EffectPrograms

inductive Family where
  | storage
  | object
  | cache
  | messaging
  | transport
deriving DecidableEq

namespace Family

def all : List Family := [storage, object, cache, messaging, transport]

def name : Family → String
  | storage => "storage"
  | object => "object"
  | cache => "cache"
  | messaging => "messaging"
  | transport => "transport"

def names : List String := all.map name

def ofName? (name : String) : Option Family := all.find? fun family => family.name == name

def toJson (family : Family) : Json := .string family.name

def read? (part : Json.Part) : Option Family := part.name?.bind ofName?

theorem ofName?_name (family : Family) : ofName? family.name = some family := by
  cases family <;> decide

end Family
end EffectPrograms
