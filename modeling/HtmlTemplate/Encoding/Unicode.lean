/-!
# Unicode encodings

`Utf8.decode` and `Utf16.decode` read bytes as characters. Both give `none` for each faulty part of
the input and go on behind it, so the input is well-formed exactly when no `none` occurs. A faulty
part of UTF-8 is the longest start of some character's bytes; a faulty part of UTF-16 is a surrogate
without its partner, or what is cut off at the end.
-/

namespace HtmlTemplate.Encoding

namespace Utf8

/-- A character of which some bytes are still owed: the value so far, and the range in which each
owed byte has to lie. -/
structure Partial where
  value : Nat
  owed : List (Nat × Nat)

/-- The range of an ordinary continuation byte. -/
def continuation : Nat × Nat := (0x80, 0xBF)

/-- The character that a leading byte begins. The first continuation byte after `0xE0` and `0xF0`
may not make a character that is shorter elsewhere, the one after `0xED` may not make a surrogate,
and the one after `0xF4` may not go beyond the last character. -/
def lead? (byte : Nat) : Option Partial :=
  if 0xC2 ≤ byte ∧ byte ≤ 0xDF then some { value := byte % 0x20, owed := [continuation] }
  else if byte = 0xE0 then some { value := 0, owed := [(0xA0, 0xBF), continuation] }
  else if byte = 0xED then some { value := 0xD, owed := [(0x80, 0x9F), continuation] }
  else if 0xE1 ≤ byte ∧ byte ≤ 0xEF then
    some { value := byte % 0x10, owed := [continuation, continuation] }
  else if byte = 0xF0 then
    some { value := 0, owed := [(0x90, 0xBF), continuation, continuation] }
  else if 0xF1 ≤ byte ∧ byte ≤ 0xF3 then
    some { value := byte % 0x08, owed := [continuation, continuation, continuation] }
  else if byte = 0xF4 then
    some { value := 4, owed := [(0x80, 0x8F), continuation, continuation] }
  else none

/-- Reads a byte at which a character begins: what it completes, and the character it begins. -/
def start (byte : UInt8) : List (Option Char) × Option Partial :=
  if byte < 0x80 then ([some (Char.ofNat byte.toNat)], none)
  else match lead? byte.toNat with
    | some begun => ([], some begun)
    | none => ([none], none)

/-- Reads a byte, given the character under way. A byte that does not continue it makes it faulty
and is read as the beginning of another. -/
def step (current : Option Partial) (byte : UInt8) : List (Option Char) × Option Partial :=
  match current with
  | some { value, owed := (low, high) :: owed } =>
    if low ≤ byte.toNat ∧ byte.toNat ≤ high then
      let value := value * 0x40 + byte.toNat % 0x40
      match owed with
      | [] => ([some (Char.ofNat value)], none)
      | _ => ([], some { value, owed })
    else
      let (read, next) := start byte
      (none :: read, next)
  | _ => start byte

/-- The characters of the bytes, given the character under way and, in reverse, what precedes. -/
def decodeFrom (before : List (Option Char)) : Option Partial → List UInt8 → List (Option Char)
  | none, [] => before.reverse
  | some _, [] => (none :: before).reverse
  | current, byte :: bytes =>
    let (read, next) := step current byte
    decodeFrom (read.reverse ++ before) next bytes

/-- The characters of the bytes, with `none` for each faulty part. -/
def decode (bytes : List UInt8) : List (Option Char) :=
  decodeFrom [] none bytes

/-- The text of the bytes, if they are well-formed. -/
def text? (bytes : List UInt8) : Option String :=
  ((decode bytes).mapM id).map String.ofList

end Utf8

namespace Utf16

/-- The value of two bytes. -/
def unit (bigEndian : Bool) (first second : UInt8) : Nat :=
  if bigEndian then first.toNat * 0x100 + second.toNat else second.toNat * 0x100 + first.toNat

/-- The units of the bytes, with those that precede in reverse, and whether a byte is left over at
the end. -/
def units (bigEndian : Bool) (before : List Nat) : List UInt8 → List Nat × Bool
  | [] => (before.reverse, false)
  | [_] => (before.reverse, true)
  | first :: second :: bytes => units bigEndian (unit bigEndian first second :: before) bytes

/-- Whether a unit is the first half of a pair of surrogates. -/
def isHigh (unit : Nat) : Bool := 0xD800 ≤ unit && unit ≤ 0xDBFF

/-- Whether a unit is the second half of a pair of surrogates. -/
def isLow (unit : Nat) : Bool := 0xDC00 ≤ unit && unit ≤ 0xDFFF

/-- Reads a unit at which a character begins. -/
def start (unit : Nat) : List (Option Char) × Option Nat :=
  if isHigh unit then ([], some unit)
  else if isLow unit then ([none], none)
  else ([some (Char.ofNat unit)], none)

/-- Reads a unit, given the first half of a pair under way. -/
def step (high : Option Nat) (unit : Nat) : List (Option Char) × Option Nat :=
  match high with
  | none => start unit
  | some high =>
    if isLow unit then
      ([some (Char.ofNat (0x10000 + (high - 0xD800) * 0x400 + (unit - 0xDC00)))], none)
    else
      let (read, next) := start unit
      (none :: read, next)

/-- The characters of the units, given the first half of a pair under way and, in reverse, what
precedes. What is cut off at the end is one faulty part, be it a half pair, a half unit or both. -/
def decodeFrom (cut : Bool) (before : List (Option Char)) :
    Option Nat → List Nat → List (Option Char)
  | high, [] => if high.isSome || cut then (none :: before).reverse else before.reverse
  | high, unit :: units =>
    let (read, next) := step high unit
    decodeFrom cut (read.reverse ++ before) next units

/-- The characters of the bytes, with `none` for each faulty part. -/
def decode (bigEndian : Bool) (bytes : List UInt8) : List (Option Char) :=
  let (units, cut) := units bigEndian [] bytes
  decodeFrom cut [] none units

end Utf16

end HtmlTemplate.Encoding
