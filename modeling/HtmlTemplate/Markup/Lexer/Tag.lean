import HtmlTemplate.Markup.Reference

/-!
# Reading tags

`Lexer.readTag?` reads a tag behind `<` or `</`, from the first letter of its name to its `>`. A tag
that is cut off by the end of the page is not read at all.
-/

namespace HtmlTemplate.Markup.Lexer

/-- Whether a character ends the name of a tag or an attribute. -/
def endsName (c : Char) : Bool :=
  Ascii.isBlank c || c == '/' || c == '>'

/-- Reads the value of an attribute behind its equals sign. -/
def readValue (source : List Char) : List Char × List Char :=
  match source.dropWhile Ascii.isBlank with
  | '"' :: rest =>
    let (value, rest) := rest.span (· ≠ '"')
    (value, rest.drop 1)
  | '\'' :: rest =>
    let (value, rest) := rest.span (· ≠ '\'')
    (value, rest.drop 1)
  | rest => rest.span fun c => ! (Ascii.isBlank c || c == '>')

/-- Reads an attribute, whose name has at least one character. -/
def readAttribute (first : Char) (source : List Char) : (String × String) × List Char :=
  let (more, rest) := source.span fun c => ! (endsName c || c == '=')
  let name := plainName (first :: more)
  match rest.dropWhile Ascii.isBlank with
  | '=' :: rest =>
    let (value, rest) := readValue rest
    ((name, String.ofList (Reference.resolve value)), rest)
  | rest => ((name, ""), rest)

/-- Adds an attribute unless there is one of that name. -/
def addAttribute (attributes : List (String × String)) (attr : String × String) :
    List (String × String) :=
  if attributes.any (·.1 == attr.1) then attributes else attributes ++ [attr]

/-- Reads the attributes of a tag and its end. Each step uses up at least one character, so a list
as long as the source, of which each step uses up one, bounds their number. -/
def readAttributes? (tag : Tag) : List Char → List Char → Option (Tag × List Char)
  | [], _ => none
  | _ :: steps, source =>
    match source.dropWhile Ascii.isBlank with
    | [] => none
    | '>' :: rest => some (tag, rest)
    | '/' :: '>' :: rest => some ({ tag with selfClosing := true }, rest)
    | '/' :: rest => readAttributes? tag steps rest
    | c :: rest =>
      let (attr, rest) := readAttribute c rest
      readAttributes? { tag with attributes := addAttribute tag.attributes attr } steps rest

/-- Reads a tag from its name on. -/
def readTag? (source : List Char) : Option (Tag × List Char) :=
  let (name, rest) := source.span (! endsName ·)
  readAttributes? { name := plainName name } rest rest

end HtmlTemplate.Markup.Lexer
