import HtmlTemplate.Markup.Token

/-!
# Reading comments and declarations

Each function here reads what follows the lead of a construct and gives the token with the rest of
the source. `Lexer.readComment` reads a comment behind `<!--`, `Lexer.readBogusComment` reads
anything that is taken for a comment up to the next `>`, and `Lexer.readDoctype` reads a document
type declaration behind `<!DOCTYPE`.
-/

namespace HtmlTemplate.Markup.Lexer

/-- Reads the text of a comment up to its end, with the text so far in reverse. A comment that the
end of the page cuts off loses the start of its end mark. -/
def readCommentText (before : List Char) : List Char → List Char × List Char
  | [] | ['-'] | ['-', '-'] | ['-', '-', '!'] => (before.reverse, [])
  | '-' :: '-' :: '>' :: rest => (before.reverse, rest)
  | '-' :: '-' :: '!' :: '>' :: rest => (before.reverse, rest)
  | c :: rest => readCommentText (c :: before) rest

/-- Reads a comment. One that starts with `>` or `->` ends there. -/
def readComment : List Char → Token × List Char
  | '>' :: rest => (.comment "", rest)
  | '-' :: '>' :: rest => (.comment "", rest)
  | source =>
    let (text, rest) := readCommentText [] source
    (.comment (plainText text), rest)

/-- Reads everything up to the next `>` as a comment. -/
def readBogusComment (source : List Char) : Token × List Char :=
  let (text, rest) := source.span (· ≠ '>')
  (.comment (plainText text), rest.drop 1)

/-- Ends a declaration here. -/
def endDoctype (doctype : Doctype) (rest : List Char) : Token × List Char :=
  (.doctype doctype, rest)

/-- Ends a broken declaration here. -/
def breakDoctype (doctype : Doctype) (rest : List Char) : Token × List Char :=
  endDoctype { doctype with forceQuirks := true } rest

/-- Drops what is left of a declaration. -/
def skipDoctype (doctype : Doctype) (source : List Char) : Token × List Char :=
  endDoctype doctype ((source.dropWhile (· ≠ '>')).drop 1)

/-- Reads an identifier up to its quotation mark and goes on behind it. -/
def readIdentifier (quote : Char) (source : List Char) (store : String → Doctype)
    (next : Doctype → List Char → Token × List Char) : Token × List Char :=
  let (identifier, rest) := source.span fun c => c != quote && c != '>'
  let doctype := store (plainText identifier)
  match rest with
  | [] => breakDoctype doctype []
  | c :: rest => if c = quote then next doctype rest else breakDoctype doctype rest

/-- Reads what follows the system identifier. -/
def readDoctypeEnd (doctype : Doctype) (source : List Char) : Token × List Char :=
  match source.dropWhile Ascii.isBlank with
  | [] => breakDoctype doctype []
  | '>' :: rest => endDoctype doctype rest
  | rest => skipDoctype doctype rest

/-- Reads the system identifier, which may be missing behind a public one. -/
def readSystemId (required : Bool) (doctype : Doctype) (source : List Char) : Token × List Char :=
  let store (identifier : String) : Doctype := { doctype with systemId := some identifier }
  match source.dropWhile Ascii.isBlank with
  | [] => breakDoctype doctype []
  | '>' :: rest => if required then breakDoctype doctype rest else endDoctype doctype rest
  | '"' :: rest => readIdentifier '"' rest store readDoctypeEnd
  | '\'' :: rest => readIdentifier '\'' rest store readDoctypeEnd
  | rest => skipDoctype { doctype with forceQuirks := true } rest

/-- Reads the public identifier. -/
def readPublicId (doctype : Doctype) (source : List Char) : Token × List Char :=
  let store (identifier : String) : Doctype := { doctype with publicId := some identifier }
  match source.dropWhile Ascii.isBlank with
  | [] => breakDoctype doctype []
  | '>' :: rest => breakDoctype doctype rest
  | '"' :: rest => readIdentifier '"' rest store (readSystemId false)
  | '\'' :: rest => readIdentifier '\'' rest store (readSystemId false)
  | rest => skipDoctype { doctype with forceQuirks := true } rest

/-- Reads what follows the name. -/
def readIdentifiers (doctype : Doctype) (source : List Char) : Token × List Char :=
  match source.dropWhile Ascii.isBlank with
  | [] => breakDoctype doctype []
  | '>' :: rest => endDoctype doctype rest
  | rest =>
    match afterWord? "public".toList rest, afterWord? "system".toList rest with
    | some rest, _ => readPublicId doctype rest
    | none, some rest => readSystemId true doctype rest
    | none, none => skipDoctype { doctype with forceQuirks := true } rest

/-- Reads a document type declaration. -/
def readDoctype (source : List Char) : Token × List Char :=
  match source.dropWhile Ascii.isBlank with
  | [] => breakDoctype {} []
  | '>' :: rest => breakDoctype {} rest
  | rest =>
    let (name, rest) := rest.span fun c => ! (Ascii.isBlank c || c == '>')
    readIdentifiers { name := some (plainName name) } rest

end HtmlTemplate.Markup.Lexer
