import HtmlTemplate.Markup.Token

/-!
# Encodings declared by tags

A tag in the head of a page may declare the encoding of the page, either by a `charset` attribute or
by a `content` attribute that stands for a header of the transfer. `Tag.declaresEncoding` tells
whether a tag does so; which encoding it is does not matter once the page has become text.
-/

namespace HtmlTemplate.Markup

/-- What follows the first `charset` that has an equals sign behind it, without blanks before and
after the sign. -/
def afterCharset? : List Char → Option (List Char)
  | [] => none
  | c :: rest =>
    match (afterWord? "charset".toList (c :: rest)).map (·.dropWhile Ascii.isBlank) with
    | some ('=' :: value) => some (value.dropWhile Ascii.isBlank)
    | _ => afterCharset? rest

/-- Whether a header names an encoding. A name in quotes needs its closing quote, and a name without
quotes needs a character. -/
def namesEncoding (header : String) : Bool :=
  match afterCharset? header.toList with
  | some ('"' :: value) => value.contains '"'
  | some ('\'' :: value) => value.contains '\''
  | some value => ! value.isEmpty
  | none => false

namespace Tag

/-- Whether a tag stands for a header that tells the type of the content. -/
def isContentType (tag : Tag) : Bool :=
  (tag.attribute? "http-equiv").any (Ascii.sameLetters · "content-type")

/-- Whether a tag declares the encoding of the page. -/
def declaresEncoding (tag : Tag) : Bool :=
  (tag.attribute? "charset").isSome ||
    (tag.isContentType && (tag.attribute? "content").any namesEncoding)

end Tag

end HtmlTemplate.Markup
