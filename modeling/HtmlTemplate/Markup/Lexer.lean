import HtmlTemplate.Markup.Lexer.Declaration
import HtmlTemplate.Markup.Lexer.Raw

/-!
# Reading markup

`Lexer.next` reads the next tokens from the source of a page. How it reads depends on the
`TextModel` in force, which the elements that were opened decide: ordinary text holds markup and
character references, the text of a `title` only references, and the text of a `style` or `script`
neither. Ordinary text is read in runs, and each run is a token of its own.
-/

namespace HtmlTemplate.Markup

/-- What the text at a place may hold. Where only an end tag is markup, its name is given. -/
inductive TextModel where
  | ordinary
  /-- Character references. -/
  | references (endTag : String)
  /-- Nothing. -/
  | raw (endTag : String)
  /-- Nothing, and comments may hide the end tag. -/
  | script (endTag : String)
  /-- Nothing, up to the end of the page. -/
  | plain
  deriving DecidableEq

namespace Lexer

/-- What was read, and how to go on. -/
structure Reading where
  tokens : List Token
  rest : List Char
  model : TextModel := .ordinary

/-- Whether a character may go on a run of ordinary text. -/
def continuesRun (c : Char) : Bool :=
  c != '<' && c != '&' && c != '\r' && c != '\x00'

/-- Reads a single character of ordinary text that was looked at before, if there is one. -/
def readLone : List Char → List Token × List Char
  | c :: rest => if continuesRun c then ([.text [c]], rest) else ([], c :: rest)
  | [] => ([], [])

/-- Reads a run of ordinary text. A line break at its front is a run of its own. -/
def readRun : List Char → List Token × List Char
  | '\n' :: rest => ([.text ['\n']], rest)
  | source =>
    let (run, rest) := source.span continuesRun
    (if run.isEmpty then [] else [.text run], rest)

/-- Reads a character reference in ordinary text. What was read in vain is a run of its own. -/
def readReference (source : List Char) : List Token × List Char :=
  let reading := Reference.read false source
  let (again, special) := readRun reading.unread
  ((if reading.unclosed then [.fault] else []) ++
      reading.characters.map (fun c => .text [c]) ++ again,
    special ++ reading.rest)

/-- Reads a tag, or nothing if the page ends inside it. -/
def readTag (token : Tag → Token) (source : List Char) : List Token × List Char :=
  match readTag? source with
  | some (tag, rest) => ([token tag], rest)
  | none => ([], [])

/-- Puts a character before the tokens of a text. -/
def addToText (c : Char) : List Token → List Token
  | .text characters :: tokens => .text (c :: characters) :: tokens
  | tokens => .text [c] :: tokens

/-- Puts a character of a marked section, given with the one before it, before the tokens of the
rest. A NUL stands apart, but behind a bracket, where the end of the section is looked for, it is
text. -/
def addToSection (place : Char × Char) (tokens : List Token) : List Token :=
  let (before, c) := place
  if c != '\x00' then addToText (plainChar c) tokens
  else if before == ']' then addToText c tokens
  else .null :: tokens

/-- Reads a marked section of text up to its end. -/
def readSection (source : List Char) : List Token × List Char :=
  let (text, rest) := splitAtMark "]]>".toList [] source
  ((('[' :: text).zip text).foldr addToSection [], rest)

/-- Reads what follows `<!`. Marked sections are known only in foreign content. -/
def readDeclaration (foreign : Bool) (source : List Char) : List Token × List Char :=
  let single (read : Token × List Char) : List Token × List Char := ([read.1], read.2)
  match source with
  | '-' :: '-' :: rest => single (readComment rest)
  | _ =>
    match afterWord? "doctype".toList source with
    | some rest => single (readDoctype rest)
    | none =>
      if foreign && "[CDATA[".toList.isPrefixOf source then readSection (source.drop 7)
      else single (readBogusComment source)

/-- Reads what follows `</`. -/
def readEndTag : List Char → List Token × List Char
  | [] => ([.text ['<'], .text ['/']], [])
  | '>' :: rest => ([.fault], rest)
  | c :: rest =>
    if c.isAlpha then readTag .endTag (c :: rest)
    else
      let (token, rest) := readBogusComment (c :: rest)
      ([token], rest)

/-- Reads what follows `<`. -/
def readMarkup (foreign : Bool) : List Char → List Token × List Char
  | '!' :: rest => readDeclaration foreign rest
  | '/' :: rest => readEndTag rest
  | '?' :: rest =>
    let (token, rest) := readBogusComment ('?' :: rest)
    ([token], rest)
  | source =>
    if source.head?.any Char.isAlpha then readTag .startTag source
    else
      let (lone, rest) := readLone source
      (.text ['<'] :: lone, rest)

/-- Reads the next tokens of ordinary text. -/
def readOrdinary (foreign : Bool) : List Char → List Token × List Char
  | '<' :: rest => readMarkup foreign rest
  | '&' :: rest => readReference rest
  | '\x00' :: rest => ([.null], rest)
  | '\r' :: rest =>
    let (lone, rest) := readLone rest
    (.text ['\n'] :: lone, rest)
  | source => readRun source

/-- The token of a text, unless it is empty. -/
def textToken (characters : List Char) : List Token :=
  if characters.isEmpty then [] else [.text characters]

/-- The tokens of a text that may hold references. Each step uses up at least one character. -/
def referencesFrom : Nat → List Char → List Token
  | 0, _ => []
  | _, [] => []
  | steps + 1, '&' :: rest =>
    let reading := Reference.read false rest
    (if reading.unclosed then [.fault] else []) ++ textToken reading.characters ++
      referencesFrom steps reading.remaining
  | steps + 1, source =>
    let (run, rest) := source.span (· != '&')
    textToken (run.map plainChar) ++ referencesFrom steps rest

/-- The tokens of a text that may hold references. -/
def withReferences (text : List Char) : List Token :=
  referencesFrom text.length text

/-- The tokens of a text that holds nothing else. -/
def withoutReferences (text : List Char) : List Token :=
  textToken (text.map plainChar)

/-- The tokens of a text and the end tag behind it, if there is one. -/
def readClosed (split : List Char × Option (List Char)) (tokensOf : List Char → List Token) :
    Reading :=
  let text := tokensOf split.1
  match split.2 with
  | none => { tokens := text, rest := [] }
  | some source =>
    let (tag, rest) := readTag .endTag source
    { tokens := text ++ tag, rest }

/-- Reads the next tokens. -/
def next (model : TextModel) (foreign : Bool) (source : List Char) : Reading :=
  match model with
  | .ordinary =>
    let (tokens, rest) := readOrdinary foreign source
    { tokens, rest }
  | .references name => readClosed (splitRaw name.toList [] source) withReferences
  | .raw name => readClosed (splitRaw name.toList [] source) withoutReferences
  | .script name => readClosed (splitScript name.toList .open [] source) withoutReferences
  | .plain => { tokens := withoutReferences source, rest := [] }

end Lexer

end HtmlTemplate.Markup
