import EffectPrograms.Decimal.Numeral
import EffectPrograms.Text.Hex
import EffectPrograms.Toml.Value

set_option autoImplicit false

namespace EffectPrograms.Toml

def isSpace (c : Char) : Bool := c == ' ' || c == '\t'

def skipSpaces (cs : List Char) : List Char := cs.dropWhile isSpace

def isPlain (c : Char) : Bool := c == '\t' || (decide (32 ≤ c.toNat) && decide (c.toNat ≠ 127))

def lineEnd? : List Char → Option (List Char)
  | '\n' :: rest => some rest
  | '\r' :: '\n' :: rest => some rest
  | _ => none

def hexNumber? (digits : List Char) : Option Nat :=
  digits.foldlM (fun n c => (Text.hexValue? c).map (n * 16 + ·)) 0

def scalar? (width : Nat) (cs : List Char) : Option (Char × List Char) := do
  if cs.length < width then none
  let n ← hexNumber? (cs.take width)
  if n < 0xD800 ∨ (0xE000 ≤ n ∧ n < 0x110000) then some (Char.ofNat n, cs.drop width) else none

def escape? : List Char → Option (Char × List Char)
  | 'b' :: rest => some ('\x08', rest)
  | 't' :: rest => some ('\t', rest)
  | 'n' :: rest => some ('\n', rest)
  | 'f' :: rest => some ('\x0c', rest)
  | 'r' :: rest => some ('\r', rest)
  | '"' :: rest => some ('"', rest)
  | '\\' :: rest => some ('\\', rest)
  | 'u' :: rest => scalar? 4 rest
  | 'U' :: rest => scalar? 8 rest
  | _ => none

def basic? : Nat → List Char → Option (List Char × List Char)
  | 0, _ => none
  | _, [] => none
  | _, '"' :: rest => some ([], rest)
  | fuel + 1, '\\' :: rest => do
      let (c, rest) ← escape? rest
      let (text, rest) ← basic? fuel rest
      some (c :: text, rest)
  | fuel + 1, c :: rest => do
      if !isPlain c then none
      let (text, rest) ← basic? fuel rest
      some (c :: text, rest)

def literal? : List Char → Option (List Char × List Char)
  | [] => none
  | '\'' :: rest => some ([], rest)
  | c :: rest =>
      if isPlain c then (literal? rest).map fun (text, rest) => (c :: text, rest) else none

-- Blanks and line ends after a backslash at the end of a line.
def skipLines : Nat → List Char → List Char
  | 0, cs => cs
  | fuel + 1, cs =>
      match lineEnd? (skipSpaces cs) with
      | some rest => skipLines fuel rest
      | none => skipSpaces cs

-- The rest of a text of several lines. Three quotes end it, with up to two more before them.
def lines? (quote : Char) (escapes : Bool) : Nat → List Char → Option (List Char × List Char)
  | 0, _ => none
  | _, [] => none
  | fuel + 1, c :: rest =>
      if c = quote then
        let run := min 5 ((c :: rest).takeWhile (· == quote)).length
        if 3 ≤ run then some (List.replicate (run - 3) quote, (c :: rest).drop run)
        else (lines? quote escapes fuel rest).map fun (text, rest) => (quote :: text, rest)
      else
        match lineEnd? (c :: rest) with
        | some rest => (lines? quote escapes fuel rest).map fun (text, rest) => ('\n' :: text, rest)
        | none =>
            if escapes && c == '\\' then
              match lineEnd? (skipSpaces rest) with
              | some rest => lines? quote escapes fuel (skipLines rest.length rest)
              | none => do
                  let (c, rest) ← escape? rest
                  let (text, rest) ← lines? quote escapes fuel rest
                  some (c :: text, rest)
            else if isPlain c then
              (lines? quote escapes fuel rest).map fun (text, rest) => (c :: text, rest)
            else none

-- A line end right after the opening quotes is not part of the text.
def openLines? (quote : Char) (escapes : Bool) (cs : List Char) : Option (List Char × List Char) :=
  lines? quote escapes (cs.length + 1) ((lineEnd? cs).getD cs)

def string? : List Char → Option (String × List Char)
  | '"' :: '"' :: '"' :: rest =>
      (openLines? '"' true rest).map fun (text, rest) => (String.ofList text, rest)
  | '"' :: rest =>
      (basic? (rest.length + 1) rest).map fun (text, rest) => (String.ofList text, rest)
  | '\'' :: '\'' :: '\'' :: rest =>
      (openLines? '\'' false rest).map fun (text, rest) => (String.ofList text, rest)
  | '\'' :: rest => (literal? rest).map fun (text, rest) => (String.ofList text, rest)
  | _ => none

-- Digits of a kind, with single underscores between them.
def digits? (isDigit : Char → Bool) : List Char → Option (List Char × List Char)
  | [] => none
  | c :: rest =>
      if isDigit c then
        let (more, left) := run rest
        some (c :: more, left)
      else none
where
  run : List Char → List Char × List Char
    | '_' :: c :: rest =>
        if isDigit c then
          let (more, left) := run rest
          (c :: more, left)
        else ([], '_' :: c :: rest)
    | c :: rest =>
        if isDigit c then
          let (more, left) := run rest
          (c :: more, left)
        else ([], c :: rest)
    | [] => ([], [])

def isHexDigit (c : Char) : Bool := (Text.hexValue? c).isSome
def isOctalDigit (c : Char) : Bool := decide ('0' ≤ c ∧ c ≤ '7')
def isBinaryDigit (c : Char) : Bool := c == '0' || c == '1'

def sign : List Char → Bool × List Char
  | '-' :: rest => (true, rest)
  | '+' :: rest => (false, rest)
  | rest => (false, rest)

-- A decimal integer: its sign and digits; a zero stands alone.
def decimal? (cs : List Char) : Option (Bool × List Char × List Char) :=
  let (negative, rest) := sign cs
  match rest with
  | '0' :: rest => some (negative, ['0'], rest)
  | rest => (digits? Char.isDigit rest).map fun (digits, rest) => (negative, digits, rest)

def number (base : Nat) (digits : List Char) : Nat :=
  digits.foldl (fun n c => n * base + (Text.hexValue? c).getD 0) 0

-- Integers are 64-bit signed.
def bounded? (negative : Bool) (magnitude : Nat) : Option Value :=
  let value : Int := if negative then -magnitude else magnitude
  if -0x8000000000000000 ≤ value ∧ value < 0x8000000000000000 then some (.integer value) else none

def based? (base : Nat) (isDigit : Char → Bool) (cs : List Char) : Option (Value × List Char) := do
  let (digits, rest) ← digits? isDigit cs
  let value ← bounded? false (number base digits)
  some (value, rest)

def integer? : List Char → Option (Value × List Char)
  | '0' :: 'x' :: rest => based? 16 isHexDigit rest
  | '0' :: 'o' :: rest => based? 8 isOctalDigit rest
  | '0' :: 'b' :: rest => based? 2 isBinaryDigit rest
  | cs => do
      let (negative, digits, rest) ← decimal? cs
      let value ← bounded? negative (number 10 digits)
      some (value, rest)

def exponent? : List Char → Option (Bool × List Char × List Char)
  | c :: rest =>
      if c = 'e' ∨ c = 'E' then
        let (negative, rest) := sign rest
        (digits? Char.isDigit rest).map fun (digits, rest) => (negative, digits, rest)
      else none
  | [] => none

-- The power of ten of a number. Digits after a power of `2 ^ 16` or more do not count.
def power (negative : Bool) (digits : List Char) : Int :=
  let size : Nat := digits.foldl (fun n c => if n < 0x10000 then n * 10 + (c.toNat - 48) else n) 0
  if negative then -size else size

-- Whether a positive decimal lies beyond the 64-bit format, whose largest number has 309 digits
-- before the point.
def overflows (whole fraction : List Char) (power : Int) : Bool :=
  let digits := (whole ++ fraction).dropWhile (· == '0')
  let places := power - fraction.length
  let size := digits.length + places
  if digits.isEmpty || decide (size < 309) then false
  else if 309 < size then true
  else
    let scaled := number 10 digits * Nat.pow 10 places.toNat
    (Binary64.ofRatio? false scaled (Nat.pow 10 (-places).toNat)).isNone

-- A number with a fraction or an exponent; a positive one must stay within the format.
def fractional? (cs : List Char) : Option (Value × List Char) := do
  let (negative, whole, rest) ← decimal? cs
  match rest with
  | '.' :: rest =>
      let (fraction, rest) ← digits? Char.isDigit rest
      let (below, exponent, rest) := (exponent? rest).getD (false, [], rest)
      if !negative && overflows whole fraction (power below exponent) then none
      else some (.float, rest)
  | rest =>
      let (below, exponent, rest) ← exponent? rest
      if !negative && overflows whole [] (power below exponent) then none else some (.float, rest)

def special? (cs : List Char) : Option (Value × List Char) :=
  match (sign cs).2 with
  | 'i' :: 'n' :: 'f' :: rest => some (.float, rest)
  | 'n' :: 'a' :: 'n' :: rest => some (.float, rest)
  | _ => none

def places? (width : Nat) (cs : List Char) : Option (Nat × List Char) :=
  let digits := (cs.take width).takeWhile Char.isDigit
  if digits.length = width then some (number 10 digits, cs.drop width) else none

def mark? (mark : Char) : List Char → Option (List Char)
  | c :: rest => if c = mark then some rest else none
  | [] => none

-- The day need not be one of its month.
def date? (cs : List Char) : Option (List Char) := do
  let (_, cs) ← places? 4 cs
  let cs ← mark? '-' cs
  let (month, cs) ← places? 2 cs
  let cs ← mark? '-' cs
  let (day, cs) ← places? 2 cs
  if 1 ≤ month ∧ month ≤ 12 ∧ 1 ≤ day ∧ day ≤ 31 then some cs else none

def time? (cs : List Char) : Option (List Char) := do
  let (hour, cs) ← places? 2 cs
  let cs ← mark? ':' cs
  let (minute, cs) ← places? 2 cs
  let cs ← mark? ':' cs
  let (second, cs) ← places? 2 cs
  if 24 ≤ hour ∨ 60 ≤ minute ∨ 61 ≤ second then none
  match cs with
  | '.' :: rest =>
      if (rest.takeWhile Char.isDigit).isEmpty then some ('.' :: rest)
      else some (rest.dropWhile Char.isDigit)
  | rest => some rest

def offset? : List Char → Option (List Char)
  | c :: rest =>
      if c = 'Z' ∨ c = 'z' then some rest
      else if c = '+' ∨ c = '-' then do
        let (hour, rest) ← places? 2 rest
        let rest ← mark? ':' rest
        let (minute, rest) ← places? 2 rest
        if 24 ≤ hour ∨ 60 ≤ minute then none else some rest
      else none
  | [] => none

def datetime? (cs : List Char) : Option (Value × List Char) :=
  match date? cs with
  | some rest =>
      let timed : Option (List Char) :=
        match rest with
        | c :: later => if c = 'T' ∨ c = 't' ∨ c = ' ' then time? later else none
        | [] => none
      match timed with
      | none => some (.datetime, rest)
      | some rest => some (.datetime, (offset? rest).getD rest)
  | none => (time? cs).map fun rest => (.datetime, rest)

def scalarValue? (cs : List Char) : Option (Value × List Char) :=
  match cs with
  | '"' :: _ | '\'' :: _ => (string? cs).map fun (text, rest) => (.string text, rest)
  | 't' :: 'r' :: 'u' :: 'e' :: rest => some (.boolean true, rest)
  | 'f' :: 'a' :: 'l' :: 's' :: 'e' :: rest => some (.boolean false, rest)
  | _ => special? cs <|> datetime? cs <|> fractional? cs <|> integer? cs

end EffectPrograms.Toml
