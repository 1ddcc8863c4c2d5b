import HtmlTemplate.Encoding.Unicode

/-!
# Declared encodings

`declaredCharset?` finds the encoding that a page declares in its first kilobyte: the token after
`encoding=` if the page has an XML declaration, else the token after `charset=`. A token is quoted,
or ends at a blank or a mark that may follow an attribute.
-/

namespace HtmlTemplate.Encoding

/-- How many bytes of a page are searched for a declaration. -/
def declarationLimit : Nat := 1024

/-- The bytes of a text in UTF-8. -/
def bytesOf (text : String) : List UInt8 :=
  text.toByteArray.data.toList

/-- A byte, in lower case if it is an ASCII letter. -/
def lowerByte (byte : UInt8) : UInt8 :=
  if 0x41 ≤ byte ∧ byte ≤ 0x5A then byte + 0x20 else byte

/-- Whether two bytes are equal up to the case of ASCII letters. -/
def sameByte (a b : UInt8) : Bool := lowerByte a == lowerByte b

/-- Whether the bytes start with `key`, where `same` compares two bytes. -/
def startsWith (same : UInt8 → UInt8 → Bool) : List UInt8 → List UInt8 → Bool
  | [], _ => true
  | _ :: _, [] => false
  | k :: key, b :: bytes => same k b && startsWith same key bytes

/-- The bytes from the first occurrence of `key` on. -/
def fromFirst? (same : UInt8 → UInt8 → Bool) (key : List UInt8) : List UInt8 → Option (List UInt8)
  | [] => if key.isEmpty then some [] else none
  | byte :: bytes =>
    if startsWith same key (byte :: bytes) then some (byte :: bytes)
    else fromFirst? same key bytes

/-- The bytes after the first occurrence of `key` up to the case of ASCII letters. -/
def afterFirst? (key bytes : List UInt8) : Option (List UInt8) :=
  (fromFirst? sameByte key bytes).map (·.drop key.length)

/-- The blanks of ASCII. -/
def isBlankByte (byte : UInt8) : Bool :=
  byte == 0x20 || byte == 0x09 || byte == 0x0A || byte == 0x0C || byte == 0x0D

/-- Whether a byte is a quotation mark. -/
def isQuoteByte (byte : UInt8) : Bool :=
  byte == 0x22 || byte == 0x27

/-- Whether a byte ends a token without quotes: a blank, a quotation mark, or one of `;`, `>`,
`/`. -/
def endsToken (byte : UInt8) : Bool :=
  isBlankByte byte || isQuoteByte byte || byte == 0x3B || byte == 0x3E || byte == 0x2F

/-- The bytes of the token that starts here; a token in quotes needs its closing quote. -/
def tokenBytes? : List UInt8 → Option (List UInt8)
  | [] => none
  | byte :: bytes =>
    if isQuoteByte byte then
      if bytes.contains byte then some (bytes.takeWhile (· != byte)) else none
    else some ((byte :: bytes).takeWhile (! endsToken ·))

/-- The token after `key`, unless it is empty or not a text. -/
def valueAfter? (key : String) (bytes : List UInt8) : Option String := do
  let rest ← afterFirst? (bytesOf key) bytes
  let token ← tokenBytes? rest
  guard (! token.isEmpty)
  Utf8.text? token

/-- The token after `encoding=` at or behind the start of an XML declaration. -/
def xmlEncoding? (bytes : List UInt8) : Option String := do
  let declaration ← fromFirst? (· == ·) (bytesOf "<?xml") bytes
  valueAfter? "encoding=" declaration

/-- The label of the encoding that a page declares. -/
def declaredCharset? (bytes : List UInt8) : Option String :=
  let head := bytes.take declarationLimit
  (xmlEncoding? head).or (valueAfter? "charset=" head)

end HtmlTemplate.Encoding
