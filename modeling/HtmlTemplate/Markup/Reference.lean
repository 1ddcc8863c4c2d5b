import HtmlTemplate.Encoding.CodePage
import HtmlTemplate.Markup.Reference.Names
import HtmlTemplate.Markup.Token

/-!
# Character references

`Reference.read` reads what follows an ampersand. A numeric reference gives the character of a code,
with U+FFFD for codes that are no characters and the characters of windows-1252 for the control
codes from `0x80` to `0x9F`. A named reference gives the characters of the longest name that fits.
An ampersand that begins no reference stands for itself, and what was read in vain is read again.
-/

namespace HtmlTemplate.Markup.Reference

/-- What an ampersand and the source behind it were read as. -/
structure Reading where
  /-- The characters that the reference stands for. -/
  characters : List Char
  /-- What was looked at but not used, to be read again before the rest. -/
  unread : List Char
  rest : List Char
  /-- The reference has no semicolon at its end. -/
  unclosed : Bool := false

namespace Reading

/-- An ampersand that stands for itself. -/
def ampersand (unread rest : List Char) : Reading :=
  { characters := ['&'], unread, rest }

/-- The source that is still to be read. -/
def remaining (reading : Reading) : List Char := reading.unread ++ reading.rest

end Reading

/-- The character of a numeric reference. -/
def ofCode (code : Nat) : Char :=
  if code = 0 ∨ 0x10FFFF < code ∨ (0xD800 ≤ code ∧ code ≤ 0xDFFF) then '\ufffd'
  else if 0x80 ≤ code ∧ code ≤ 0x9F then
    (Encoding.CodePage.windows1252.upperHalf.toList)[code - 0x80]?.getD '\ufffd'
  else Char.ofNat code

/-- The value of digits in a base. -/
def value (base : Nat) (digits : List Char) : Nat :=
  digits.foldl (fun value c => value * base + (hexDigit? c).getD 0) 0

/-- Reads a numeric reference behind its lead, which is `#` or `#x`. -/
def readNumber (lead : List Char) (base : Nat) (isDigit : Char → Bool) (source : List Char) :
    Reading :=
  let (digits, rest) := source.span isDigit
  if digits.isEmpty then .ampersand lead source
  else
    let characters := [ofCode (value base digits)]
    match rest with
    | ';' :: rest => { characters, unread := [], rest }
    | _ => { characters, unread := [], rest, unclosed := true }

/-- How many characters two lists have in common at their fronts. -/
def agreement : List Char → List Char → Nat
  | a :: as, b :: bs => if a = b then agreement as bs + 1 else 0
  | _, _ => 0

/-- How far some name agrees with the source. -/
def reach (source : List Char) : Nat :=
  names.foldl (fun far name => max far (agreement name.1 source)) 0

/-- The longest name at the front of the source, with the characters it stands for. -/
def longestName? (source : List Char) : Option (List Char × List Char) :=
  names.foldl
    (fun best name =>
      if name.1.isPrefixOf source ∧ best.all (·.1.length < name.1.length) then some name else best)
    none

/-- Reads a named reference. In an attribute, a name without semicolon that goes on with a letter, a
digit or an equals sign is no reference. -/
def readName (inAttribute : Bool) (source : List Char) : Reading :=
  match longestName? source with
  | some (name, characters) =>
    let far := reach source + 1
    let closed := name.getLast? == some ';'
    let next := source[name.length]?
    if inAttribute && ! closed && next.any (fun c => c.isAlphanum || c == '=') then
      .ampersand (source.take far) (source.drop far)
    else
      { characters, unread := (source.take far).drop name.length, rest := source.drop far,
        unclosed := ! closed }
  | none =>
    let (word, rest) := source.span Char.isAlphanum
    .ampersand (word ++ rest.take 1) (rest.drop 1)

/-- Reads what follows an ampersand. -/
def read (inAttribute : Bool) : List Char → Reading
  | '#' :: 'x' :: rest => readNumber ['#', 'x'] 16 (fun c => (hexDigit? c).isSome) rest
  | '#' :: 'X' :: rest => readNumber ['#', 'X'] 16 (fun c => (hexDigit? c).isSome) rest
  | '#' :: rest => readNumber ['#'] 10 Char.isDigit rest
  | c :: rest =>
    if c.isAlphanum then readName inAttribute (c :: rest) else .ampersand [] (c :: rest)
  | [] => .ampersand [] []

/-- The characters of an attribute's value in which references are resolved, with what precedes in
reverse. Each step uses up at least one character, so as many steps as there are characters are
enough. -/
def resolveFrom : Nat → List Char → List Char → List Char
  | 0, before, _ => before.reverse
  | _, before, [] => before.reverse
  | steps + 1, before, '&' :: rest =>
    let reading := read true rest
    resolveFrom steps (reading.characters.reverse ++ before) reading.remaining
  | steps + 1, before, c :: rest => resolveFrom steps (plainChar c :: before) rest

/-- An attribute's value in which references are resolved. -/
def resolve (value : List Char) : List Char :=
  resolveFrom value.length [] value

end HtmlTemplate.Markup.Reference
