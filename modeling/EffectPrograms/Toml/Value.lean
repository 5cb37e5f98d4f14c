set_option autoImplicit false

namespace EffectPrograms.Toml

-- Of fractions, dates and times only the fact is kept.
inductive Value where
  | string (text : String)
  | integer (value : Int)
  | boolean (value : Bool)
  | float
  | datetime
  | array (items : List Value)
  | table (members : List (String × Value))

inductive Origin where
  | header
  | implied
  | dotted
deriving DecidableEq

inductive Node where
  | leaf (value : Value)
  | table (origin : Origin) (members : List (String × Node))
  | tables (elements : List (List (String × Node)))

abbrev Members := List (String × Node)

def lookUp {β : Type} (name : String) : List (String × β) → Option β
  | [] => none
  | (other, value) :: rest => if name = other then some value else lookUp name rest

def replace {β : Type} (name : String) (value : β) : List (String × β) → List (String × β)
  | [] => [(name, value)]
  | (other, old) :: rest =>
      if name = other then (name, value) :: rest else (other, old) :: replace name value rest

-- Adds a value to an inline table under a dotted name, which may enter the tables that are its
-- values already.
def insert? : List String → String → Value → List (String × Value) →
    Option (List (String × Value))
  | [], name, value, members =>
      if (lookUp name members).isSome then none else some (replace name value members)
  | step :: path, name, value, members =>
      match lookUp step members with
      | none => (insert? path name value []).map fun inner => replace step (.table inner) members
      | some (.table inner) =>
          (insert? path name value inner).map fun inner => replace step (.table inner) members
      | some _ => none

def remove (name : String) (members : Members) : Members :=
  members.filter fun member => member.1 ≠ name

-- Changes the table at the end of a path and opens missing tables on the way. Of an array of tables
-- the last one is meant. A dotted name does not enter a table that has a header.
def descend {γ : Type} (dotted : Bool) (change : Origin → Members → Option (γ × Members)) :
    List String → Origin → Members → Option (γ × Members)
  | [], origin, members => change origin members
  | name :: path, _, members =>
      match lookUp name members with
      | none => do
          let fresh := if dotted then Origin.dotted else .implied
          let (found, content) ← descend dotted change path fresh []
          some (found, replace name (.table fresh content) members)
      | some (.leaf _) => none
      | some (.table origin content) => do
          if dotted && origin == .header then none
          let (found, content) ← descend dotted change path origin content
          some (found, replace name (.table origin content) members)
      | some (.tables elements) => do
          let last ← elements.getLast?
          let (found, content) ← descend dotted change path .header last
          some (found, replace name (.tables (elements.dropLast ++ [content])) members)

-- Adds a value under a dotted name, all but the last part of which opens dotted tables.
def assign (path : List String) (name : String) (value : Value) (members : Members) :
    Option Members := do
  let add (origin : Origin) (members : Members) : Option (Unit × Members) :=
    if (origin == .dotted) == path.isEmpty then none
    else
      match lookUp name members with
      | some _ => none
      | none => some ((), members ++ [(name, .leaf value)])
  let (_, members) ← descend true add path .header members
  some members

mutual
def Node.value : Node → Value
  | .leaf value => value
  | .table _ members => .table (memberValues members)
  | .tables elements => .array (elementValues elements)
def memberValues : List (String × Node) → List (String × Value)
  | [] => []
  | (name, node) :: rest => (name, node.value) :: memberValues rest
def elementValues : List (List (String × Node)) → List Value
  | [] => []
  | element :: rest => .table (memberValues element) :: elementValues rest
end

structure Draft where
  root : Members
  path : List String
  element : Bool
  current : Members

namespace Draft

def empty : Draft := ⟨[], [], false, []⟩

def settle (draft : Draft) : Option Members :=
  match draft.path.getLast? with
  | none => some draft.current
  | some name => do
      let place (_ : Origin) (members : Members) : Option (Unit × Members) :=
        if draft.element then
          match lookUp name members with
          | none => some ((), replace name (.tables [draft.current]) members)
          | some (.tables elements) =>
              some ((), replace name (.tables (elements ++ [draft.current])) members)
          | some _ => none
        else some ((), replace name (.table .header draft.current) members)
      let (_, root) ← descend false place draft.path.dropLast .header draft.root
      some root

def openTable (draft : Draft) (path : List String) : Option Draft := do
  let root ← draft.settle
  let name ← path.getLast?
  let take (_ : Origin) (members : Members) : Option (Members × Members) :=
    match lookUp name members with
    | none => some ([], members)
    | some (.table .implied content) => some (content, remove name members)
    | some _ => none
  let (current, root) ← descend false take path.dropLast .header root
  some ⟨root, path, false, current⟩

-- A header of an array of tables: the array must be new, or have come from such headers.
def openElement (draft : Draft) (path : List String) : Option Draft := do
  let root ← draft.settle
  let name ← path.getLast?
  let check (_ : Origin) (members : Members) : Option (Unit × Members) :=
    match lookUp name members with
    | none | some (.tables _) => some ((), members)
    | some _ => none
  let (_, root) ← descend false check path.dropLast .header root
  some ⟨root, path, true, []⟩

def assign (draft : Draft) (path : List String) (name : String) (value : Value) :
    Option Draft := do
  let current ← Toml.assign path name value draft.current
  some { draft with current }

end Draft
end EffectPrograms.Toml
