import EffectPrograms.Toml.Scalar

set_option autoImplicit false

namespace EffectPrograms.Toml

def isBare (c : Char) : Bool := c.isAlphanum || c == '_' || c == '-'

def name? : List Char → Option (String × List Char)
  | '"' :: rest =>
      (basic? (rest.length + 1) rest).map fun (text, rest) => (String.ofList text, rest)
  | '\'' :: rest => (literal? rest).map fun (text, rest) => (String.ofList text, rest)
  | cs =>
      let bare := cs.takeWhile isBare
      if bare.isEmpty then none else some (String.ofList bare, cs.dropWhile isBare)

def nameList? : Nat → List Char → Option (List String × List Char)
  | 0, _ => none
  | fuel + 1, cs => do
      let (name, rest) ← name? (skipSpaces cs)
      match skipSpaces rest with
      | '.' :: rest => do
          let (names, rest) ← nameList? fuel rest
          some (name :: names, rest)
      | rest => some ([name], rest)

-- The most arrays and tables inside one another, and the most parts of a dotted name.
def maxDepth : Nat := 127

def names? (cs : List Char) : Option (List String × List Char) := do
  let (names, rest) ← nameList? (cs.length + 1) cs
  if names.length ≤ maxDepth then some (names, rest) else none

def lineRest? (cs : List Char) : Option (List Char) :=
  let rest :=
    match skipSpaces cs with
    | '#' :: rest => rest.dropWhile isPlain
    | rest => rest
  if rest.isEmpty then some [] else lineEnd? rest

-- Blanks, comments and line ends inside an array.
def skipGap : Nat → List Char → List Char
  | 0, cs => cs
  | fuel + 1, cs =>
      match skipSpaces cs with
      | '#' :: rest =>
          match lineEnd? (rest.dropWhile isPlain) with
          | some rest => skipGap fuel rest
          | none => '#' :: rest
      | rest =>
          match lineEnd? rest with
          | some rest => skipGap fuel rest
          | none => rest

def gap (cs : List Char) : List Char := skipGap cs.length cs

def split? (names : List String) : Option (List String × String) :=
  names.getLast?.map fun name => (names.dropLast, name)

mutual
def value? : Nat → Nat → List Char → Option (Value × List Char)
  | 0, _, _ => none
  | fuel + 1, depth, cs =>
      match cs, depth with
      | '[' :: _, 0 => none
      | '\x7b' :: _, 0 => none
      | '[' :: rest, depth + 1 =>
          match gap rest with
          | ']' :: rest => some (.array [], rest)
          | rest => (items? fuel depth rest).map fun (items, rest) => (.array items, rest)
      | '\x7b' :: rest, depth + 1 =>
          match skipSpaces rest with
          | '\x7d' :: rest => some (.table [], rest)
          | rest =>
              (pairs? fuel depth [] rest).map fun (members, rest) => (.table members, rest)
      | cs, _ => scalarValue? cs
def items? : Nat → Nat → List Char → Option (List Value × List Char)
  | 0, _, _ => none
  | fuel + 1, depth, cs => do
      let (item, rest) ← value? fuel depth cs
      match gap rest with
      | ']' :: rest => some ([item], rest)
      | ',' :: rest =>
          match gap rest with
          | ']' :: rest => some ([item], rest)
          | rest => do
              let (items, rest) ← items? fuel depth rest
              some (item :: items, rest)
      | _ => none
def pairs? : Nat → Nat → List (String × Value) → List Char →
    Option (List (String × Value) × List Char)
  | 0, _, _, _ => none
  | fuel + 1, depth, members, cs => do
      let (names, rest) ← names? cs
      let (path, name) ← split? names
      let rest ← mark? '=' rest
      let (value, rest) ← value? fuel depth (skipSpaces rest)
      let members ← insert? path name value members
      match skipSpaces rest with
      | '\x7d' :: rest => some (members, rest)
      | ',' :: rest => pairs? fuel depth members rest
      | _ => none
end

def header? (draft : Draft) : List Char → Option (Draft × List Char)
  | '[' :: '[' :: rest => do
      let (path, rest) ← names? rest
      let rest ← mark? ']' rest
      let rest ← mark? ']' rest
      let draft ← draft.openElement path
      some (draft, rest)
  | '[' :: rest => do
      let (path, rest) ← names? rest
      let rest ← mark? ']' rest
      let draft ← draft.openTable path
      some (draft, rest)
  | _ => none

def assignment? (draft : Draft) (cs : List Char) : Option (Draft × List Char) := do
  let (names, rest) ← names? cs
  let (path, name) ← split? names
  let rest ← mark? '=' rest
  let (value, rest) ← value? (2 * cs.length + 2) maxDepth (skipSpaces rest)
  let draft ← draft.assign path name value
  some (draft, rest)

def document? : Nat → Draft → List Char → Option Members
  | 0, _, _ => none
  | fuel + 1, draft, cs =>
      match skipSpaces cs with
      | [] => draft.settle
      | '#' :: rest =>
          match lineRest? ('#' :: rest) with
          | some rest => document? fuel draft rest
          | none => none
      | '[' :: rest => do
          let (draft, rest) ← header? draft ('[' :: rest)
          let rest ← lineRest? rest
          document? fuel draft rest
      | rest =>
          match lineEnd? rest with
          | some rest => document? fuel draft rest
          | none => do
              let (draft, rest) ← assignment? draft rest
              let rest ← lineRest? rest
              document? fuel draft rest

-- The members of the table that a document is; a byte order mark before it is passed over.
def parse? (text : String) : Option (List (String × Value)) :=
  let cs :=
    match text.toList with
    | '\ufeff' :: rest => rest
    | cs => cs
  (document? (cs.length + 2) .empty cs).map memberValues

end EffectPrograms.Toml
