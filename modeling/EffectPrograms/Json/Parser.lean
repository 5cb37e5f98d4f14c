import EffectPrograms.Decimal.Numeral
import EffectPrograms.Json.Source
import EffectPrograms.Text.Hex

set_option autoImplicit false

namespace EffectPrograms

-- Whole numerals between `-2 ^ 63` and `2 ^ 64` stay whole; others, and `-0`, are rounded.
def Number.ofNumeral? (n : Decimal.Numeral) : Option Number :=
  let magnitude := Nat.ofDigitChars 10 n.whole 0
  let plain := n.fraction.isEmpty && n.exponent.isNone
  if plain && !n.negative && decide (magnitude < 0x10000000000000000) then some (.whole magnitude)
  else if plain && n.negative && decide (magnitude ≠ 0 ∧ magnitude ≤ 0x8000000000000000) then
    some (.whole (-magnitude))
  else n.float?.map .float

namespace Json

def isSpace (c : Char) : Bool := c == ' ' || c == '\n' || c == '\t' || c == '\r'

def skipSpaces (cs : List Char) : List Char := cs.dropWhile isSpace

def isDigit (c : Char) : Bool := decide ('0' ≤ c ∧ c ≤ '9')

def digits (cs : List Char) : List Char × List Char := (cs.takeWhile isDigit, cs.dropWhile isDigit)

-- The digits before the point; a zero stands alone.
def wholePart? : List Char → Option (List Char × List Char)
  | '0' :: rest => some (['0'], rest)
  | c :: rest => if isDigit c then some (digits (c :: rest)) else none
  | [] => none

def fractionPart? : List Char → Option (List Char × List Char)
  | '.' :: rest => if (digits rest).1.isEmpty then none else some (digits rest)
  | rest => some ([], rest)

def exponentDigits? (below : Bool) (cs : List Char) :
    Option (Option (Bool × List Char) × List Char) :=
  if (digits cs).1.isEmpty then none else some (some (below, (digits cs).1), (digits cs).2)

def exponentPart? : List Char → Option (Option (Bool × List Char) × List Char)
  | c :: rest =>
      if c = 'e' ∨ c = 'E' then
        match rest with
        | '+' :: rest => exponentDigits? false rest
        | '-' :: rest => exponentDigits? true rest
        | rest => exponentDigits? false rest
      else some (none, c :: rest)
  | [] => some (none, [])

def unsigned? (negative : Bool) (cs : List Char) : Option (Decimal.Numeral × List Char) := do
  let (whole, rest) ← wholePart? cs
  let (fraction, rest) ← fractionPart? rest
  let (exponent, rest) ← exponentPart? rest
  some (⟨negative, whole, fraction, exponent⟩, rest)

def numeral? : List Char → Option (Decimal.Numeral × List Char)
  | '-' :: rest => unsigned? true rest
  | rest => unsigned? false rest

def hexValue4? (a b c d : Char) : Option Nat := do
  let a ← Text.hexValue? a
  let b ← Text.hexValue? b
  let c ← Text.hexValue? c
  let d ← Text.hexValue? d
  some (((a * 16 + b) * 16 + c) * 16 + d)

def simpleEscape? (c : Char) : Option Char :=
  if c = '"' then some '"'
  else if c = '\\' then some '\\'
  else if c = '/' then some '/'
  else if c = 'b' then some '\x08'
  else if c = 'f' then some '\x0c'
  else if c = 'n' then some '\n'
  else if c = 'r' then some '\r'
  else if c = 't' then some '\t'
  else none

-- The rest of a string after its opening quote, and what follows the closing one.
def unquote? : List Char → Option (Literal × List Char)
  | [] => none
  | '"' :: rest => some ([], rest)
  | '\\' :: 'u' :: a :: b :: c :: d :: rest =>
      match hexValue4? a b c d with
      | none => none
      | some unit =>
          (unquote? rest).map fun (marks, left) => (Literal.put (.ofUnit unit) marks, left)
  | '\\' :: c :: rest =>
      match simpleEscape? c with
      | none => none
      | some plain => (unquote? rest).map fun (marks, left) => (.plain plain :: marks, left)
  | c :: rest =>
      if c = '\\' then none
      else (unquote? rest).map fun (marks, left) => (.ofChar c :: marks, left)

def string? : List Char → Option (Literal × List Char)
  | '"' :: rest => unquote? rest
  | _ => none

mutual
-- A value at the front of a text; the first argument bounds the steps.
def source? : Nat → List Char → Option (Source × List Char)
  | 0, _ => none
  | fuel + 1, cs =>
      match skipSpaces cs with
      | 'n' :: 'u' :: 'l' :: 'l' :: rest => some (.null, rest)
      | 't' :: 'r' :: 'u' :: 'e' :: rest => some (.bool true, rest)
      | 'f' :: 'a' :: 'l' :: 's' :: 'e' :: rest => some (.bool false, rest)
      | '"' :: rest => (unquote? rest).map fun (literal, left) => (.string literal, left)
      | '[' :: rest =>
          match skipSpaces rest with
          | ']' :: rest => some (.array [], rest)
          | rest => (items? fuel rest).map fun (items, left) => (.array items, left)
      | '\x7b' :: rest =>
          match skipSpaces rest with
          | '\x7d' :: rest => some (.object [], rest)
          | rest => (members? fuel rest).map fun (members, left) => (.object members, left)
      | rest =>
          (numeral? rest).map fun (numeral, left) => (.number (Number.ofNumeral? numeral), left)
def items? : Nat → List Char → Option (List Source × List Char)
  | 0, _ => none
  | fuel + 1, cs =>
      match source? fuel cs with
      | none => none
      | some (item, rest) =>
          match skipSpaces rest with
          | ']' :: rest => some ([item], rest)
          | ',' :: rest => (items? fuel rest).map fun (items, left) => (item :: items, left)
          | _ => none
def members? : Nat → List Char → Option (List (Literal × Source) × List Char)
  | 0, _ => none
  | fuel + 1, cs =>
      match string? (skipSpaces cs) with
      | none => none
      | some (name, rest) =>
          match skipSpaces rest with
          | ':' :: rest =>
              match source? fuel rest with
              | none => none
              | some (item, rest) =>
                  match skipSpaces rest with
                  | '\x7d' :: rest => some ([(name, item)], rest)
                  | ',' :: rest =>
                      (members? fuel rest).map fun (members, left) =>
                        ((name, item) :: members, left)
                  | _ => none
          | _ => none
end

def Source.ofText? (text : String) : Option Source :=
  match source? (2 * text.length + 2) text.toList with
  | some (source, rest) => if skipSpaces rest = [] then some source else none
  | none => none

def parseWithin? (depth : Nat) (text : String) : Option Json :=
  (Source.ofText? text).bind fun source => source.value? depth

def parse? (text : String) : Option Json := parseWithin? Source.maxDepth text

end Json
end EffectPrograms
