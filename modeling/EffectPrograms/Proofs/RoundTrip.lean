import EffectPrograms.Document

set_option autoImplicit false

namespace EffectPrograms
namespace Json

-- What may follow a numeral without going on with it.
def EndsNumeral (rest : List Char) : Prop :=
  ∀ c ∈ rest.head?, isDigit c = false ∧ c ≠ '.' ∧ c ≠ 'e' ∧ c ≠ 'E'

theorem endsNumeral_nil : EndsNumeral [] := nofun

theorem endsNumeral_cons {c : Char} (rest : List Char)
    (ends : isDigit c = false ∧ c ≠ '.' ∧ c ≠ 'e' ∧ c ≠ 'E') : EndsNumeral (c :: rest) := by
  intro d head
  obtain rfl : c = d := Option.some.inj head
  exact ends

section
variable {rest : List Char}

theorem isDigit_of_mem_toDigits {n : Nat} {c : Char} (member : c ∈ Nat.toDigits 10 n) :
    isDigit c = true := by
  have bounds := Char.isDigit_iff_toNat.mp
    (Nat.isDigit_of_mem_toDigits (by decide) (by decide) member)
  exact decide_eq_true ⟨bounds.1, bounds.2⟩

theorem digits_append {ds : List Char} (all : ∀ c ∈ ds, isDigit c = true)
    (ends : EndsNumeral rest) : digits (ds ++ rest) = (ds, rest) := by
  have stop : rest.takeWhile isDigit = [] ∧ rest.dropWhile isDigit = rest := by
    cases rest with
    | nil => exact ⟨rfl, rfl⟩
    | cons c rest => simp [(ends c rfl).1]
  rw [digits, List.takeWhile_append_of_pos all, List.dropWhile_append_of_pos all, stop.1, stop.2,
    List.append_nil]

theorem head?_toDigits {n : Nat} (positive : 0 < n) : (Nat.toDigits 10 n).head? ≠ some '0' := by
  induction n using Nat.strongRecOn with
  | _ n ih =>
    rw [Nat.toDigits_eq_if (by decide)]
    split
    · simpa using Nat.ne_of_gt positive
    · next large =>
      have lead := ih (n / 10) (by omega) (by omega)
      cases shown : Nat.toDigits 10 (n / 10) with
      | nil => exact absurd shown Nat.toDigits_ne_nil
      | cons c ds => simpa [shown] using lead

theorem wholePart?_toDigits (n : Nat) (ends : EndsNumeral rest) :
    wholePart? (Nat.toDigits 10 n ++ rest) = some (Nat.toDigits 10 n, rest) := by
  rcases Nat.eq_zero_or_pos n with rfl | positive
  · rfl
  · have head := head?_toDigits positive
    have all : ∀ c ∈ Nat.toDigits 10 n, isDigit c = true := fun c => isDigit_of_mem_toDigits
    cases shown : Nat.toDigits 10 n with
    | nil => exact absurd shown Nat.toDigits_ne_nil
    | cons c ds =>
      rw [shown] at head all
      have whole := digits_append all ends
      rw [List.cons_append] at whole ⊢
      unfold wholePart?
      split
      · next same => exact absurd (List.cons.inj same).1 (by simpa using head)
      · next same =>
        obtain ⟨rfl, rfl⟩ := List.cons.inj same
        rw [if_pos (all c (.head _)), whole]
      · next same => cases same

theorem fractionPart?_of_ends (ends : EndsNumeral rest) : fractionPart? rest = some ([], rest) := by
  cases rest with
  | nil => rfl
  | cons c rest =>
    unfold fractionPart?
    split
    · next same => exact absurd (List.cons.inj same).1 (ends c rfl).2.1
    · rfl

theorem exponentPart?_of_ends (ends : EndsNumeral rest) : exponentPart? rest = some (none, rest) := by
  cases rest with
  | nil => rfl
  | cons c rest =>
    unfold exponentPart?
    dsimp only
    rw [if_neg (not_or.mpr (ends c rfl).2.2)]

theorem unsigned?_toDigits (negative : Bool) (n : Nat) (ends : EndsNumeral rest) :
    unsigned? negative (Nat.toDigits 10 n ++ rest) =
      some (⟨negative, Nat.toDigits 10 n, [], none⟩, rest) := by
  simp [unsigned?, wholePart?_toDigits n ends, fractionPart?_of_ends ends,
    exponentPart?_of_ends ends]

end

-- The whole numbers that a text keeps whole.
def exactNumber : Number → Bool
  | .whole n => decide (-0x8000000000000000 ≤ n ∧ n < 0x10000000000000000)
  | .float _ => false

theorem exactNumber_whole (n : Int) : exactNumber (.whole n) = true ↔
    -0x8000000000000000 ≤ n ∧ n < 0x10000000000000000 := decide_eq_true_iff

theorem numeral?_toDigits (n : Nat) (rest : List Char) :
    numeral? (Nat.toDigits 10 n ++ rest) = unsigned? false (Nat.toDigits 10 n ++ rest) := by
  cases shown : Nat.toDigits 10 n with
  | nil => exact absurd shown Nat.toDigits_ne_nil
  | cons c ds =>
    have digit : isDigit c = true := isDigit_of_mem_toDigits (shown ▸ List.mem_cons_self)
    rw [List.cons_append, numeral?]
    rintro _ ⟨⟩
    cases digit

theorem numeral?_written {number : Number} (whole : exactNumber number = true) {rest : List Char}
    (ends : EndsNumeral rest) :
    ∃ numeral, numeral? (number.written ++ rest) = some (numeral, rest) ∧
      Number.ofNumeral? numeral = some number := by
  rcases number with (n | n) | x
  · have bound : n < 0x10000000000000000 := Int.ofNat_lt.mp ((exactNumber_whole _).mp whole).2
    refine ⟨⟨false, Nat.toDigits 10 n, [], none⟩, ?_, ?_⟩
    · exact (numeral?_toDigits n rest).trans (unsigned?_toDigits false n ends)
    · simp [Number.ofNumeral?, Nat.ofDigitChars_ten_toDigits, bound]
  · have bound : n + 1 ≤ 0x8000000000000000 := by
      have range := (exactNumber_whole _).mp whole
      omega
    refine ⟨⟨true, Nat.toDigits 10 (n + 1), [], none⟩, ?_, ?_⟩
    · exact unsigned?_toDigits true (n + 1) ends
    · simp [Number.ofNumeral?, Nat.ofDigitChars_ten_toDigits, bound, Int.negSucc_eq]
  · cases whole

theorem put_plain (c : Char) (marks : Literal) :
    Literal.put (.plain c) marks = .plain c :: marks := rfl

theorem unquote?_plain {c : Char} (quote : c ≠ '"') (backslash : c ≠ '\\') (large : 32 ≤ c.toNat)
    (rest : List Char) :
    unquote? (c :: rest) = (unquote? rest).map fun (marks, left) => (.plain c :: marks, left) := by
  rw [unquote?]
  · rw [if_neg backslash, Mark.ofChar, if_neg (Nat.not_lt.mpr large)]
  · exact quote
  · rintro _ _ _ _ _ same
    exact absurd same backslash
  · rintro _ _ same
    exact absurd same backslash

theorem unquote?_escaped (c : Char) (rest : List Char) :
    unquote? (escaped c ++ rest) =
      (unquote? rest).map fun (marks, left) => (.plain c :: marks, left) := by
  rw [escaped]
  -- Seven characters have an escape of their own, with one letter.
  iterate 7
    split
    · next same =>
      subst same
      simp [unquote?, simpleEscape?]
  split
  · next small =>
    have unit : hexValue4? '0' '0' (Text.hexDigit (c.toNat / 16)) (Text.hexDigit (c.toNat % 16)) =
        some c.toNat := by
      have zero : Text.hexValue? '0' = some 0 := by decide
      simp [hexValue4?, zero, Text.hexValue?_hexDigit _ (show c.toNat / 16 < 16 by omega),
        Text.hexValue?_hexDigit _ (show c.toNat % 16 < 16 by omega)]
      omega
    have mark : Mark.ofUnit c.toNat = .plain c := by
      rw [Mark.ofUnit, if_pos (.inl (by omega)), Char.ofNat_toNat]
    simp [unquote?, unit, mark, put_plain]
  · next quote backslash _ _ _ _ _ large =>
    exact unquote?_plain quote backslash (Nat.le_of_not_lt large) rest

theorem unquote?_writtenText (text : String) (rest : List Char) :
    unquote? (text.toList.flatMap escaped ++ '"' :: rest) =
      some (text.toList.map .plain, rest) := by
  induction text.toList with
  | nil => rw [List.flatMap_nil, List.nil_append, unquote?, List.map_nil]
  | cons c cs ih => rw [List.flatMap_cons, List.append_assoc, unquote?_escaped, ih]; rfl

mutual
-- All numbers are whole and within the range that a text keeps whole.
def isExact : Json → Bool
  | .number n => exactNumber n
  | .array items => areExact items
  | .object members => membersAreExact members
  | _ => true
def areExact : List Json → Bool
  | [] => true
  | item :: rest => isExact item && areExact rest
def membersAreExact : List (String × Json) → Bool
  | [] => true
  | (_, value) :: rest => isExact value && membersAreExact rest
end

mutual
def depth : Json → Nat
  | .array items => depthOfItems items + 1
  | .object members => depthOfMembers members + 1
  | _ => 0
def depthOfItems : List Json → Nat
  | [] => 0
  | item :: rest => max (depth item) (depthOfItems rest)
def depthOfMembers : List (String × Json) → Nat
  | [] => 0
  | (_, value) :: rest => max (depth value) (depthOfMembers rest)
end

def plainLiteral (text : String) : Literal := text.toList.map .plain

mutual
-- What the text of a value is read as.
def source : Json → Source
  | .null => .null
  | .bool value => .bool value
  | .number n => .number (some n)
  | .string text => .string (plainLiteral text)
  | .array items => .array (sources items)
  | .object members => .object (sourceMembers members)
def sources : List Json → List Source
  | [] => []
  | item :: rest => source item :: sources rest
def sourceMembers : List (String × Json) → List (Literal × Source)
  | [] => []
  | (name, value) :: rest => (plainLiteral name, source value) :: sourceMembers rest
end

mutual
theorem value?_source : (value : Json) → (limit : Nat) →
    value.source.value? limit = if value.depth ≤ limit then some value else none
  | .null, _ | .bool _, _ | .number _, _ => by simp [source, Source.value?, depth]
  | .string text, _ => by
      simp [source, Source.value?, depth, plainLiteral, Literal.text?_plain]
  | .array _, 0 | .object _, 0 => by simp [source, Source.value?, depth]
  | .array items, limit + 1 => by
      simp only [source, Source.value?, depth, values?_sources items, Nat.succ_le_succ_iff]
      split <;> rfl
  | .object members, limit + 1 => by
      simp only [source, Source.value?, depth, memberValues?_sourceMembers members,
        Nat.succ_le_succ_iff]
      split <;> rfl
theorem values?_sources : (items : List Json) → (limit : Nat) →
    Source.values? (sources items) limit = if depthOfItems items ≤ limit then some items else none
  | [], _ => by simp [sources, Source.values?, depthOfItems]
  | item :: rest, limit => by
      simp only [sources, Source.values?, depthOfItems, value?_source item, values?_sources rest,
        Nat.max_le]
      by_cases head : item.depth ≤ limit <;> by_cases tail : depthOfItems rest ≤ limit <;>
        simp [head, tail]
theorem memberValues?_sourceMembers : (members : List (String × Json)) → (limit : Nat) →
    Source.memberValues? (sourceMembers members) limit =
      if depthOfMembers members ≤ limit then some members else none
  | [], _ => by simp [sourceMembers, Source.memberValues?, depthOfMembers]
  | (name, value) :: rest, limit => by
      simp only [sourceMembers, Source.memberValues?, depthOfMembers, value?_source value,
        memberValues?_sourceMembers rest, plainLiteral, Literal.text?_plain, Nat.max_le]
      by_cases head : value.depth ≤ limit <;> by_cases tail : depthOfMembers rest ≤ limit <;>
        simp [head, tail]
end

section
variable {c : Char} {cs : List Char}

theorem skipSpaces_cons (solid : isSpace c = false) : skipSpaces (c :: cs) = c :: cs := by
  simp [skipSpaces, solid]

def startsNumeral (c : Char) : Bool := c == '-' || isDigit c

theorem ne_of_startsNumeral {d : Char} (start : startsNumeral c = true)
    (other : startsNumeral d = false) : c ≠ d := by
  rintro rfl
  rw [start] at other
  cases other

theorem solid_of_startsNumeral (start : startsNumeral c = true) : isSpace c = false := by
  simp [isSpace, ne_of_startsNumeral start (d := ' ') rfl, ne_of_startsNumeral start (d := '\n') rfl,
    ne_of_startsNumeral start (d := '\t') rfl, ne_of_startsNumeral start (d := '\r') rfl]

theorem written_number (number : Number) (whole : exactNumber number = true) :
    ∃ c cs, number.written = c :: cs ∧ startsNumeral c = true := by
  rcases number with (n | n) | x
  · cases shown : Nat.toDigits 10 n with
    | nil => exact absurd shown Nat.toDigits_ne_nil
    | cons c ds =>
      have digit : isDigit c = true := isDigit_of_mem_toDigits (shown ▸ List.mem_cons_self)
      exact ⟨c, ds, shown, by simp [startsNumeral, digit]⟩
  · exact ⟨'-', _, rfl, rfl⟩
  · cases whole

theorem source?_numeral (start : startsNumeral c = true) (fuel : Nat) :
    source? (fuel + 1) (c :: cs) = (numeral? (c :: cs)).map fun (numeral, left) =>
      (.number (Number.ofNumeral? numeral), left) := by
  rw [source?, skipSpaces_cons (solid_of_startsNumeral start)]
  split
  all_goals first
    | rfl
    | next same =>
      rw [(List.cons.inj same).1] at start
      cases start

end

theorem written_head (value : Json) (whole : value.isExact = true) :
    ∃ c cs, value.written = c :: cs ∧ isSpace c = false ∧ c ≠ ']' := by
  cases value with
  | null => exact ⟨_, _, rfl, rfl, by decide⟩
  | bool value => cases value <;> exact ⟨_, _, rfl, rfl, by decide⟩
  | number n =>
    obtain ⟨c, cs, written, start⟩ := written_number n whole
    exact ⟨c, cs, written, solid_of_startsNumeral start, ne_of_startsNumeral start rfl⟩
  | string text => exact ⟨_, _, rfl, rfl, by decide⟩
  | array items => exact ⟨_, _, rfl, rfl, by decide⟩
  | object members => exact ⟨_, _, rfl, rfl, by decide⟩

theorem writtenItems_head {items : List Json} (some_item : items ≠ [])
    (whole : areExact items = true) :
    ∃ c cs, writtenItems items = c :: cs ∧ isSpace c = false ∧ c ≠ ']' := by
  cases items with
  | nil => exact absurd rfl some_item
  | cons item later =>
    obtain ⟨c, cs, written, solid, open_⟩ := written_head item (by simp_all [areExact])
    cases later with
    | nil => exact ⟨c, cs, written, solid, open_⟩
    | cons next later => exact ⟨c, cs ++ _, by rw [writtenItems, written]; rfl, solid, open_⟩

theorem writtenMembers_head (member : String × Json) (later : List (String × Json)) :
    ∃ cs, writtenMembers (member :: later) = '"' :: cs := by
  cases later <;> exact ⟨_, rfl⟩

theorem skipSpaces_writtenText (text : String) (rest : List Char) :
    skipSpaces (writtenText text ++ rest) = writtenText text ++ rest := skipSpaces_cons rfl

theorem string?_writtenText (text : String) (rest : List Char) :
    string? (writtenText text ++ rest) = some (plainLiteral text, rest) := by
  rw [writtenText, List.cons_append, List.append_assoc]
  exact unquote?_writtenText text rest

mutual
-- A value is read from the front of its text, by steps in proportion to the length of that.
theorem source?_written : (value : Json) → value.isExact = true → (fuel : Nat) →
    (rest : List Char) → EndsNumeral rest → 2 * value.written.length ≤ fuel →
      source? fuel (value.written ++ rest) = some (value.source, rest)
  | value, _, 0, _, _, enough => by
      obtain ⟨c, cs, written, -⟩ := written_head value ‹_›
      simp [written] at enough
  | .null, _, fuel + 1, rest, _, _ => by simp [source?, written, source, skipSpaces, isSpace]
  | .bool true, _, fuel + 1, rest, _, _ => by simp [source?, written, source, skipSpaces, isSpace]
  | .bool false, _, fuel + 1, rest, _, _ => by simp [source?, written, source, skipSpaces, isSpace]
  | .number n, whole, fuel + 1, rest, ends, _ => by
      obtain ⟨c, cs, shown, start⟩ := written_number n whole
      obtain ⟨numeral, read, stands⟩ := numeral?_written whole ends
      rw [shown, List.cons_append] at read
      rw [written, shown, List.cons_append, source?_numeral start, read, Option.map_some]
      dsimp only
      rw [stands, source]
  | .string text, _, fuel + 1, rest, _, _ => by
      have unquoted := unquote?_writtenText text rest
      simp [source?, written, writtenText, source, skipSpaces, isSpace, unquoted, plainLiteral]
  | .array [], _, fuel + 1, rest, _, _ => by
      simp [source?, written, writtenItems, source, sources, skipSpaces, isSpace]
  | .array (item :: later), whole, fuel + 1, rest, _, enough => by
      obtain ⟨c, cs, shown, solid, inside⟩ := writtenItems_head (List.cons_ne_nil _ _) whole
      have read := items?_writtenItems (item :: later) (List.cons_ne_nil _ _) whole fuel rest (by
        simp only [written, List.length_cons, List.length_append] at enough
        omega)
      rw [shown, List.cons_append] at read
      simp [source?, written, shown, skipSpaces_cons (c := '[') rfl, skipSpaces_cons solid, inside,
        read, source]
  | .object [], _, fuel + 1, rest, _, _ => by
      simp [source?, written, writtenMembers, source, sourceMembers, skipSpaces, isSpace]
  | .object (member :: later), whole, fuel + 1, rest, _, enough => by
      obtain ⟨cs, shown⟩ := writtenMembers_head member later
      have read := members?_writtenMembers (member :: later) (List.cons_ne_nil _ _) whole fuel rest
        (by
          simp only [written, List.length_cons, List.length_append] at enough
          omega)
      rw [shown, List.cons_append] at read
      simp [source?, written, shown, skipSpaces_cons (c := '\x7b') rfl,
        skipSpaces_cons (c := '"') rfl, read, source]
theorem items?_writtenItems : (items : List Json) → items ≠ [] → areExact items = true →
    (fuel : Nat) → (rest : List Char) → 2 * (writtenItems items).length + 1 ≤ fuel →
      items? fuel (writtenItems items ++ ']' :: rest) = some (sources items, rest)
  | [], filled, _, _, _, _ => absurd rfl filled
  | _, _, _, 0, _, enough => by cases enough
  | [item], _, whole, fuel + 1, rest, enough => by
      have head : item.isExact = true := by simpa [areExact] using whole
      have read := source?_written item head fuel (']' :: rest) (endsNumeral_cons _ (by decide)) (by
        simp only [writtenItems] at enough
        omega)
      simp [items?, writtenItems, read, skipSpaces_cons (c := ']') rfl, sources]
  | item :: next :: later, _, whole, fuel + 1, rest, enough => by
      rw [areExact, Bool.and_eq_true] at whole
      simp only [writtenItems, List.length_append, List.length_cons] at enough
      have read := source?_written item whole.1 fuel
        (',' :: (writtenItems (next :: later) ++ ']' :: rest)) (endsNumeral_cons _ (by decide))
        (by omega)
      have others := items?_writtenItems (next :: later) (List.cons_ne_nil _ _) whole.2 fuel rest
        (by omega)
      simp [items?, writtenItems, read, skipSpaces_cons (c := ',') rfl, others, sources]
theorem members?_writtenMembers : (members : List (String × Json)) → members ≠ [] →
    membersAreExact members = true → (fuel : Nat) → (rest : List Char) →
    2 * (writtenMembers members).length + 1 ≤ fuel →
      members? fuel (writtenMembers members ++ '\x7d' :: rest) = some (sourceMembers members, rest)
  | [], filled, _, _, _, _ => absurd rfl filled
  | _, _, _, 0, _, enough => by cases enough
  | [(name, value)], _, whole, fuel + 1, rest, enough => by
      have head : value.isExact = true := by simpa [membersAreExact] using whole
      simp only [writtenMembers, List.length_append, List.length_cons] at enough
      have read := source?_written value head fuel ('\x7d' :: rest)
        (endsNumeral_cons _ (by decide)) (by omega)
      simp [members?, writtenMembers, skipSpaces_writtenText, string?_writtenText,
        skipSpaces_cons (c := ':') rfl, read, skipSpaces_cons (c := '\x7d') rfl, sourceMembers]
  | (name, value) :: next :: later, _, whole, fuel + 1, rest, enough => by
      rw [membersAreExact, Bool.and_eq_true] at whole
      simp only [writtenMembers, List.length_append, List.length_cons] at enough
      have read := source?_written value whole.1 fuel
        (',' :: (writtenMembers (next :: later) ++ '\x7d' :: rest))
        (endsNumeral_cons _ (by decide)) (by omega)
      have others := members?_writtenMembers (next :: later) (List.cons_ne_nil _ _) whole.2 fuel rest
        (by omega)
      simp [members?, writtenMembers, skipSpaces_writtenText, string?_writtenText,
        skipSpaces_cons (c := ':') rfl, read, skipSpaces_cons (c := ',') rfl, others, sourceMembers]
end

theorem ofText?_text (value : Json) (whole : value.isExact = true) :
    Source.ofText? value.text = some value.source := by
  have read := source?_written value whole (2 * value.written.length + 2) [] endsNumeral_nil
    (by omega)
  rw [List.append_nil] at read
  simp [Source.ofText?, text_eq, read, skipSpaces]

theorem parse?_text (value : Json) (whole : value.isExact = true) :
    parse? value.text = if value.depth ≤ Source.maxDepth then some value else none := by
  rw [parse?, parseWithin?, ofText?_text value whole]
  exact value?_source value Source.maxDepth

end Json

namespace Document

def isExact (document : Document) : Bool := document.json.isExact

/-- A document of whole numbers comes back from its own bytes; one that nests deeper than a text may
does not come back at all. -/
theorem decode?_encoded (document : Document) (whole : document.isExact = true) :
    decode? document.encoded =
      if document.json.depth ≤ Json.Source.maxDepth then some document else none := by
  rw [decode?, encoded, Bytes.text?_ofText]
  dsimp only
  rw [text, Json.parse?_text document.json whole]
  split
  · rw [Option.map_some, ofJson_json]
  · rfl

end Document
end EffectPrograms
