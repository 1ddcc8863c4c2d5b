import HtmlTemplate.Markup.Construction.Rules

/-!
# Reading pages

`construct` reads a page as a document. Every text is a page: faulty markup is repaired, and the
`html`, `head` and `body` elements are added where they are left out.
-/

namespace HtmlTemplate.Markup

namespace Construction

/-- Deals with tokens in order. -/
def processAll (c : Construction) (tokens : List Token) : Construction :=
  tokens.foldl (fun c token => ((Build.process token).run c).2) c

/-- Drops a byte order mark that stands where reading was interrupted. -/
def resume (c : Construction) (source : List Char) : List Char :=
  if c.interrupted then dropMark source else source

/-- Reads the source to its end, in at most as many steps as given. -/
def readAll : Nat → Construction → List Char → Construction
  | _, c, [] => c.processAll [.endOfInput]
  | 0, c, _ => c
  | steps + 1, c, source =>
    let reading := Lexer.next c.model c.isForeign source
    let c := { c with model := reading.model, interrupted := false }.processAll reading.tokens
    readAll steps c (c.resume reading.rest)

end Construction

/-- Builds the document of a page. Every step uses up a part of the source, so there are at most as
many steps as characters. -/
def construct (page : String) : Construction :=
  let source := sourceOf page
  Construction.readAll source.length {} source

end HtmlTemplate.Markup
