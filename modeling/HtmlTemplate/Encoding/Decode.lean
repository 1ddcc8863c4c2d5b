import HtmlTemplate.Encoding.Label
import HtmlTemplate.Encoding.Unicode
import HtmlTemplate.Notice

/-!
# Reading bytes as text

`decodeTextBy` picks the encoding of a page: UTF-8 if the bytes are well-formed, then the declared
one, and at last windows-1252. A byte order mark at the start overrides each of these, and faulty
parts are read as U+FFFD. The bytes themselves are read by a `Decoder`, which is a parameter.

`Encoding.decodeRaw` is the decoder of the standard encodings. Those of East Asia have tables of
many thousand characters, which are left to a parameter again, an `EastAsianDecoder`. `decodeText`
reads pages with it; where nothing else is given, only the part of these encodings that is ASCII is
read.
-/

namespace HtmlTemplate

namespace Encoding

/-- A way to read bytes in each encoding, as characters with `none` for each faulty part. No byte
order mark is looked for. -/
abbrev Decoder := Encoding → List UInt8 → List (Option Char)

/-- A way to read bytes in each of the encodings of East Asia, given by their names. -/
abbrev EastAsianDecoder := String → List UInt8 → List (Option Char)

/-- Reads what is ASCII, and takes any other byte for a faulty part. -/
def asciiOnly : EastAsianDecoder := fun _ bytes =>
  bytes.map fun byte => if byte < 0x80 then some (Char.ofNat byte.toNat) else none

/-- Reads bytes in each encoding, given how those of East Asia are read. -/
def decodeRaw (eastern : EastAsianDecoder) : Decoder
  | utf8, bytes => Utf8.decode bytes
  | utf16 bigEndian, bytes => Utf16.decode bigEndian bytes
  | codePage page, bytes => page.decode bytes
  | eastAsian name, bytes => eastern name bytes
  | userDefined, bytes =>
    bytes.map fun byte =>
      some (Char.ofNat (if byte < 0x80 then byte.toNat else 0xF780 + (byte.toNat - 0x80)))
  | replacement, bytes => if bytes.isEmpty then [] else [none]

/-- The default encoding of pages that are not UTF-8. -/
def fallback : Encoding := codePage CodePage.windows1252

/-- The encoding of the byte order mark at the start of the bytes, and the bytes after it. -/
def byteOrderMark? : List UInt8 → Option (Encoding × List UInt8)
  | 0xEF :: 0xBB :: 0xBF :: rest => some (utf8, rest)
  | 0xFF :: 0xFE :: rest => some (utf16 false, rest)
  | 0xFE :: 0xFF :: rest => some (utf16 true, rest)
  | _ => none

/-- The text of decoded characters, with U+FFFD for each faulty part. -/
def textOf (decoded : List (Option Char)) : String :=
  String.ofList (decoded.map (·.getD '\ufffd'))

/-- Whether decoded characters have a faulty part. -/
def isFaulty (decoded : List (Option Char)) : Bool :=
  decoded.any (·.isNone)

/-- The characters of the bytes. A byte order mark overrides the encoding and is itself not read. -/
def decodeBy (decoder : Decoder) (encoding : Encoding) (bytes : List UInt8) : List (Option Char) :=
  match byteOrderMark? bytes with
  | some (marked, rest) => decoder marked rest
  | none => decoder encoding bytes

end Encoding

open Encoding

/-- The text of a page, given how bytes are read and the label of the encoding that the page
declares, if any. -/
def decodeTextBy (decoder : Decoder) (bytes : List UInt8) (hint : Option String) :
    String × List Notice :=
  let decoded := utf8.decodeBy decoder bytes
  if isFaulty decoded then
    match hint.bind ofLabel? with
    | some encoding => (textOf (encoding.decodeBy decoder bytes), [.declaredEncoding encoding.name])
    | none => (textOf (fallback.decodeBy decoder bytes), [.defaultEncoding])
  else (textOf decoded, [])

/-- The text of a page that is in one of the standard encodings. -/
def decodeText (bytes : List UInt8) (hint : Option String)
    (eastern : EastAsianDecoder := asciiOnly) : String × List Notice :=
  decodeTextBy (decodeRaw eastern) bytes hint

end HtmlTemplate
