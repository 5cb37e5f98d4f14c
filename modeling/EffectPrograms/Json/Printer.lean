import EffectPrograms.Decimal.Shortest
import EffectPrograms.Json.Basic
import EffectPrograms.Text.Hex

set_option autoImplicit false

namespace EffectPrograms

def Number.written : Number → List Char
  | .whole (.ofNat n) => Nat.toDigits 10 n
  | .whole (.negSucc n) => '-' :: Nat.toDigits 10 (n + 1)
  | .float x => Decimal.written x

namespace Json

def escaped (c : Char) : List Char :=
  if c = '"' then ['\\', '"']
  else if c = '\\' then ['\\', '\\']
  else if c = '\x08' then ['\\', 'b']
  else if c = '\t' then ['\\', 't']
  else if c = '\n' then ['\\', 'n']
  else if c = '\x0c' then ['\\', 'f']
  else if c = '\r' then ['\\', 'r']
  else if c.toNat < 32 then
    ['\\', 'u', '0', '0', Text.hexDigit (c.toNat / 16), Text.hexDigit (c.toNat % 16)]
  else [c]

def writtenText (text : String) : List Char := '"' :: (text.toList.flatMap escaped ++ ['"'])

mutual
def written : Json → List Char
  | .null => ['n', 'u', 'l', 'l']
  | .bool true => ['t', 'r', 'u', 'e']
  | .bool false => ['f', 'a', 'l', 's', 'e']
  | .number n => n.written
  | .string text => writtenText text
  | .array items => '[' :: (writtenItems items ++ [']'])
  | .object members => '\x7b' :: (writtenMembers members ++ ['\x7d'])
def writtenItems : List Json → List Char
  | [] => []
  | [item] => written item
  | item :: next :: rest => written item ++ ',' :: writtenItems (next :: rest)
def writtenMembers : List (String × Json) → List Char
  | [] => []
  | [(name, value)] => writtenText name ++ ':' :: written value
  | (name, value) :: next :: rest =>
      writtenText name ++ ':' :: (written value ++ ',' :: writtenMembers (next :: rest))
end

def textOnto (text : String) (rest : List Char) : List Char :=
  '"' :: text.toList.foldr (fun c rest => escaped c ++ rest) ('"' :: rest)

mutual
-- The text of a value in front of another; no part is copied into the text of the whole.
def onto : Json → List Char → List Char
  | .null, rest => 'n' :: 'u' :: 'l' :: 'l' :: rest
  | .bool true, rest => 't' :: 'r' :: 'u' :: 'e' :: rest
  | .bool false, rest => 'f' :: 'a' :: 'l' :: 's' :: 'e' :: rest
  | .number n, rest => n.written ++ rest
  | .string text, rest => textOnto text rest
  | .array items, rest => '[' :: itemsOnto items (']' :: rest)
  | .object members, rest => '\x7b' :: membersOnto members ('\x7d' :: rest)
def itemsOnto : List Json → List Char → List Char
  | [], rest => rest
  | [item], rest => onto item rest
  | item :: next :: later, rest => onto item (',' :: itemsOnto (next :: later) rest)
def membersOnto : List (String × Json) → List Char → List Char
  | [], rest => rest
  | [(name, value)], rest => textOnto name (':' :: onto value rest)
  | (name, value) :: next :: later, rest =>
      textOnto name (':' :: onto value (',' :: membersOnto (next :: later) rest))
end

theorem textOnto_eq (text : String) (rest : List Char) :
    textOnto text rest = writtenText text ++ rest := by
  have spread (cs : List Char) : cs.foldr (fun c rest => escaped c ++ rest) ('"' :: rest) =
      cs.flatMap escaped ++ '"' :: rest := by
    induction cs with
    | nil => rfl
    | cons c cs ih => simp [ih]
  simp [textOnto, writtenText, spread]

mutual
theorem onto_eq : (value : Json) → (rest : List Char) → value.onto rest = value.written ++ rest
  | .null, _ | .bool true, _ | .bool false, _ | .number _, _ => rfl
  | .string text, rest => textOnto_eq text rest
  | .array items, rest => by simp [onto, written, itemsOnto_eq items]
  | .object members, rest => by simp [onto, written, membersOnto_eq members]
theorem itemsOnto_eq :
    (items : List Json) → (rest : List Char) → itemsOnto items rest = writtenItems items ++ rest
  | [], _ => rfl
  | [item], rest => onto_eq item rest
  | item :: next :: later, rest => by
      simp [itemsOnto, writtenItems, onto_eq item, itemsOnto_eq (next :: later)]
theorem membersOnto_eq :
    (members : List (String × Json)) → (rest : List Char) →
      membersOnto members rest = writtenMembers members ++ rest
  | [], _ => rfl
  | [(name, value)], rest => by
      simp [membersOnto, writtenMembers, textOnto_eq, onto_eq value]
  | (name, value) :: next :: later, rest => by
      simp [membersOnto, writtenMembers, textOnto_eq, onto_eq value,
        membersOnto_eq (next :: later)]
end

def text (value : Json) : String := String.ofList (value.onto [])

theorem text_eq (value : Json) : value.text = String.ofList value.written := by
  simp [text, onto_eq]

end Json
end EffectPrograms
