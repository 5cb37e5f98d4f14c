import EffectPrograms.Json.Shape
import EffectPrograms.Json.Source

set_option autoImplicit false

namespace EffectPrograms.Json

-- A value that is being decoded: where a text writes it, with the number of arrays and objects that
-- may still open; held back until its tag was read; or given as a value.
inductive Part where
  | written (source : Source) (depth : Nat)
  | held (value : Json)
  | given (value : Json)

namespace Part
variable {α : Type}

def value? : Part → Option Json
  | written source depth => source.value? depth
  | held value | given value => some value

def isHeld : Part → Bool
  | held _ => true
  | _ => false

def isNull : Part → Bool
  | written .null _ | held .null | given .null => true
  | _ => false

def within (part : Part) (value : Json) : Part := if part.isHeld then held value else given value

def text? (part : Part) : Option String := part.value?.bind readText?

def bits? (bits : Nat) (part : Part) : Option Nat := part.value?.bind (readBits? bits)

-- A literal that a text writes need not be a text to stand for bytes.
def bytes? : Part → Option Bytes
  | written (.string literal) _ => some literal.bytes
  | part => part.value?.bind readBytes?

def optional? (read : Part → Option α) (part : Part) : Option (Option α) :=
  if part.isNull then some none else (read part).map some

def items? : Part → Option (List Part)
  | written (.array items) (depth + 1) => some (items.map fun item => written item depth)
  | held (.array items) => some (items.map held)
  | given (.array items) => some (items.map given)
  | _ => none

def list? (read : Part → Option α) (part : Part) : Option (List α) :=
  part.items?.bind (readAll? read)

def writtenMembers? (names : List String) (depth : Nat) :
    List (Literal × Source) → Option (List (String × Part))
  | [] => some []
  | (literal, source) :: rest =>
      match literal.text?, writtenMembers? names depth rest with
      | some name, some others =>
          if names.contains name then some ((name, written source depth) :: others)
          else if source.isClean then some others
          else none
      | _, _ => none

def keptMembers (names : List String) (members : List (String × Json)) : List (String × Json) :=
  members.filter fun member => names.contains member.1

def members? (names : List String) : Part → Option (List (String × Part))
  | written (.object members) (depth + 1) => writtenMembers? names depth members
  | held (.object members) =>
      some ((keptMembers names members).map fun member => (member.1, held member.2))
  | given (.object members) =>
      some ((keptMembers names members).map fun member => (member.1, given member.2))
  | _ => none

def single? : Part → Option (String × Part)
  | written (.object [(literal, source)]) (depth + 1) =>
      literal.text?.map fun name => (name, written source depth)
  | held (.object [(name, value)]) => some (name, held value)
  | given (.object [(name, value)]) => some (name, given value)
  | _ => none

def named {β : Type} (name : String) : List (String × β) → List β
  | [] => []
  | (other, value) :: rest => if name = other then value :: named name rest else named name rest

def member? {β : Type} (name : String) (members : List (String × β)) : Option (Option β) :=
  match named name members with
  | [] => some none
  | [value] => some (some value)
  | _ => none

def memberList? {β : Type} (members : List (String × β)) :
    List String → Option (List (Option β))
  | [] => some []
  | name :: rest =>
      match member? name members, memberList? members rest with
      | some value, some others => some (value :: others)
      | _, _ => none

def fields? (names : List String) (part : Part) : Option (List (Option Part)) :=
  match part.members? names, part.items? with
  | some members, _ => memberList? members names
  | none, some items => if items.length = names.length then some (items.map some) else none
  | none, none => none

-- The fields of a record all of which have defaults: an array may end early.
def someFields? (names : List String) (part : Part) : Option (List (Option Part)) :=
  match part.members? names, part.items? with
  | some members, _ => memberList? members names
  | none, some items =>
      if items.length ≤ names.length then
        some (items.map some ++ List.replicate (names.length - items.length) none)
      else none
  | none, none => none

-- The fields of a record that is the body of a choice: a given body is an object.
def body? (names : List String) : Part → Option (List (Option Part))
  | given (.array _) => none
  | part => part.fields? names

-- A name alone, or an object that gives it null; held, also an object that gives it an empty
-- object.
def name? (part : Part) : Option String := do
  match ← part.value? with
  | .string name => some name
  | .object [(name, .null)] => some name
  | .object [(name, .object [])] => if part.isHeld then some name else none
  | _ => none

-- One of some names, which a held part may also give by its place among them.
def choice? (names : List String) (part : Part) : Option String := do
  match ← part.value? with
  | .string name => some name
  | .number (.whole (.ofNat n)) => if part.isHeld then names[n]? else none
  | _ => none

-- A choice among some names, whose tag stands beside its content. Content before its tag is held;
-- in an array the tag comes first.
def tagged? (tag content : String) (names : List String) (part : Part) :
    Option (String × Option Part) :=
  match part.members? [tag, content], part.items? with
  | some [(only, name)], _ => if only = tag then name.name?.map (·, none) else none
  | some [(first, one), (second, other)], _ =>
      if first = tag ∧ second = content then one.name?.map (·, some other)
      else if first = content ∧ second = tag then
        match one.value?, other.name? with
        | some value, some name => some (name, some (held value))
        | _, _ => none
      else none
  | none, some [name, value] => (name.choice? names).map (·, some value)
  | _, _ => none

-- A choice among some names, whose tag stands among its fields. The fields are held.
def opened? (tag : String) (names : List String) (part : Part) : Option (String × Part) := do
  match ← part.value? with
  | .object members =>
      match named tag members with
      | [name] =>
          let fields := members.filter fun member => member.1 ≠ tag
          ((part.within name).choice? names).map (·, held (.object fields))
      | _ => none
  | .array (name :: fields) => ((part.within name).choice? names).map (·, held (.array fields))
  | _ => none

end Part

variable {α : Type}

def neededField? (read : Part → Option α) (field : Option Part) : Option α := field.bind read

def optionalField? (read : Part → Option α) : Option Part → Option (Option α)
  | none => some none
  | some part => part.optional? read

def emptyField? : Option Part → Option Unit
  | none => some ()
  | some part => if part.isNull then some () else none

end EffectPrograms.Json
