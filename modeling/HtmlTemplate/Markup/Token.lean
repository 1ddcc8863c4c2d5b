import HtmlTemplate.Ascii

/-!
# Tokens of HTML markup

Markup is read as a sequence of `Token` values. The source of a page is a list of characters in
which a line break that was written with a carriage return is the single character `\r`; `sourceOf`
brings a text into this form, and `plainText` turns a piece of source into text again.
-/

namespace HtmlTemplate.Markup

/-- A tag: its name in lower case, its attributes in order, and whether it closes itself. -/
structure Tag where
  name : String
  attributes : List (String × String) := []
  selfClosing : Bool := false
  deriving DecidableEq

namespace Tag

/-- The value of an attribute. -/
def attribute? (tag : Tag) (name : String) : Option String :=
  tag.attributes.lookup name

/-- Whether two tags have the same name and the same attributes in any order. -/
def sameElement (tag other : Tag) : Bool :=
  tag.name == other.name && tag.attributes.length == other.attributes.length &&
    tag.attributes.all other.attributes.contains

end Tag

/-- A document type declaration. -/
structure Doctype where
  name : Option String := none
  publicId : Option String := none
  systemId : Option String := none
  /-- The declaration is broken, so the page is laid out by the rules of old browsers. -/
  forceQuirks : Bool := false
  deriving DecidableEq

/-- A piece of markup. -/
inductive Token where
  | doctype (doctype : Doctype)
  | startTag (tag : Tag)
  | endTag (tag : Tag)
  | comment (text : String)
  | text (characters : List Char)
  /-- The character NUL, which is dropped or replaced depending on where it stands. -/
  | null
  /-- Faulty markup that stands for nothing. -/
  | fault
  | endOfInput
  deriving DecidableEq

/-- The source of a text, with what precedes in reverse: carriage returns take the line feeds that
follow them along. -/
def joinLineBreaks (before : List Char) : List Char → List Char
  | [] => before.reverse
  | '\r' :: '\n' :: rest => joinLineBreaks ('\r' :: before) rest
  | c :: rest => joinLineBreaks (c :: before) rest

/-- Drops a byte order mark at the front. -/
def dropMark : List Char → List Char
  | '\ufeff' :: rest => rest
  | source => source

/-- The source of a page. -/
def sourceOf (page : String) : List Char :=
  joinLineBreaks [] (dropMark page.toList)

/-- A character of the source as it appears in text. -/
def plainChar (c : Char) : Char :=
  if c = '\r' then '\n' else if c = '\x00' then '\ufffd' else c

/-- A piece of source as text: line breaks are line feeds, and U+FFFD stands for NUL. -/
def plainText (source : List Char) : String :=
  String.ofList (source.map plainChar)

/-- A piece of source as a name, that is, as text in lower case. -/
def plainName (source : List Char) : String :=
  String.ofList (source.map fun c => (plainChar c).toLower)

/-- What follows `word`, which is in lower case, at the front of the source up to the case of ASCII
letters. -/
def afterWord? (word : List Char) (source : List Char) : Option (List Char) :=
  if (source.take word.length).map Char.toLower = word then some (source.drop word.length)
  else none

/-- The source before and behind the first occurrence of `mark`, or all of it and nothing. What
precedes is given in reverse. -/
def splitAtMark (mark before : List Char) : List Char → List Char × List Char
  | [] => (before.reverse, [])
  | c :: rest =>
    if mark.isPrefixOf (c :: rest) then (before.reverse, (c :: rest).drop mark.length)
    else splitAtMark mark (c :: before) rest

end HtmlTemplate.Markup
