import HtmlTemplate.Ascii
import HtmlTemplate.Catalog

/-!
# Literals of the template language

A value is written in one of four forms: a string literal (`Literal.ofText`), a variant
(`Literal.ofVariant`), bare, or as the empty literal. `Literal.ofValue` picks the form by the kind
that a catalog gives to the attribute. Nothing is escaped: a text that holds a double quote is put
between `{|` and `|}` instead of between double quotes.
-/

namespace HtmlTemplate.Literal

/-- The literal of a value that carries no information. -/
def empty : String := "\"\""

/-- The byte of the double quote. -/
def quoteByte : UInt8 := 0x22

/-- Whether the bytes of `text` hold the one of the double quote. Every byte of a character beyond
ASCII is at least `0x80`, so the byte stands for nothing but the character. -/
def hasQuote (text : String) : Bool :=
  text.toByteArray.data.toList.contains quoteByte

/-- Writes `text` as a string literal at the end of `out`. -/
def pushText (out text : String) : String :=
  if hasQuote text then out ++ "\x7b|" ++ text ++ "|\x7d" else out ++ "\"" ++ text ++ "\""

/-- `text` as a string literal. -/
def ofText (text : String) : String :=
  pushText "" text

/-- Writing a string literal adds it at the end, whatever stands there. -/
theorem pushText_eq (out text : String) : pushText out text = out ++ ofText text := by
  rw [pushText, ofText, pushText]
  split <;> simp only [String.append_assoc, String.empty_append]

/-- `value` as a variant: in lower case with underscores for hyphens after a back quote, except
that the two request methods `GET` and `POST` are in upper case. -/
def ofVariant (value : String) : String :=
  let lowered := Ascii.lower value
  let tag := if lowered = "get" ∨ lowered = "post" then Ascii.upper lowered else lowered
  String.ofList ('\x60' :: tag.toList.map fun c => if c = '-' then '_' else c)

/-- The literal of an attribute's value; `value` is absent for an attribute without one, and `name`
is absent for the text of a node, which is always a string literal. -/
def ofValue (catalog : Catalog) (value name : Option String) : String :=
  match value with
  | none => empty
  | some value =>
    match name.elim ValueKind.string catalog.valueKind with
    | .poly => ofVariant value
    | .integer => value
    | .boolean => empty
    | .string => ofText value

end HtmlTemplate.Literal
