import EffectPrograms.Text.Quoted

set_option autoImplicit false

namespace EffectPrograms.Text.Form

def joined : List (List Char) → List Char
  | [] => []
  | [item] => item
  | item :: next :: rest => item ++ ',' :: ' ' :: joined (next :: rest)

def applied (name : String) (value : List Char) : List Char :=
  name.toList ++ '(' :: (value ++ [')'])

def list (items : List (List Char)) : List Char := '[' :: (joined items ++ [']'])

def record (name : String) (fields : List (String × List Char)) : List Char :=
  let written := fields.map fun field => field.1.toList ++ ':' :: ' ' :: field.2
  name.toList ++ ' ' :: '\x7b' :: ' ' :: (joined written ++ [' ', '\x7d'])

def mapping (entries : List (String × List Char)) : List Char :=
  let written := entries.map fun entry => quoted entry.1 ++ ':' :: ' ' :: entry.2
  '\x7b' :: (joined written ++ ['\x7d'])

def optional : Option (List Char) → List Char
  | none => "None".toList
  | some value => applied "Some" value

end EffectPrograms.Text.Form
