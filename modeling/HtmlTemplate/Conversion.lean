import HtmlTemplate.Catalog.Standard
import HtmlTemplate.Encoding.Declaration
import HtmlTemplate.Encoding.Decode
import HtmlTemplate.Markup.Document
import HtmlTemplate.Rendering

/-!
# Converting pages

`convertText` reads a page, looks up the first element of a given name and renders it with the
standard catalog. `convertBytes` does so for a page whose encoding is not known. The only way to
fail is that there is no such element.

How bytes are decoded and how texts are parsed are parameters of `Page.ofBytesBy`, `convertTextBy`
and `convertBytesBy`. The functions without these parameters use `Encoding.decodeRaw` and
`Page.ofText`.
-/

namespace HtmlTemplate

open Encoding

/-- Why a page cannot be converted. -/
inductive ConversionError where
  /-- No element has the name that was asked for. -/
  | rootNotFound (tag : String)
  deriving DecidableEq

/-- The wording of an error. -/
def ConversionError.message : ConversionError → String
  | .rootNotFound tag => "no <" ++ tag ++ "> element in document"

/-- The element that is converted when none is asked for. -/
def defaultRoot : String := "html"

/-! ## Pages -/

/-- A page that was read, with what there is to report about it. -/
structure Page where
  dom : Dom
  notices : List Notice

/-- A way to read texts as pages. -/
abbrev Parser := String → Page

/-- Reads a page by the rules of markup. -/
def Page.ofText (page : String) : Page :=
  let construction := Markup.construct page
  let (dom, notices) := construction.draft.finish
  { dom, notices := List.replicate construction.misplaced .misplaced ++ notices }

/-- Reads a page whose encoding is not known: UTF-8, the declared encoding or the default. -/
def Page.ofBytesBy (decoder : Decoder) (parse : Parser) (page : List UInt8) : Page :=
  let (text, notices) := decodeTextBy decoder page (declaredCharset? page)
  let page := parse text
  { page with notices := notices ++ page.notices }

/-- Reads a page that is in one of the standard encodings. -/
def Page.ofBytes (page : List UInt8) (eastern : EastAsianDecoder := asciiOnly) : Page :=
  ofBytesBy (decodeRaw eastern) ofText page

/-- The text of a page whose encoding is not known. -/
def pageTextBy (decoder : Decoder) (page : List UInt8) : String :=
  (decodeTextBy decoder page (declaredCharset? page)).1

/-- The text of a page that is in one of the standard encodings. -/
def pageText (page : List UInt8) (eastern : EastAsianDecoder := asciiOnly) : String :=
  pageTextBy (decodeRaw eastern) page

/-- The document of a page. -/
def parseText (page : String) : Dom :=
  (Page.ofText page).dom

/-- The document of a page whose encoding is not known. -/
def parseBytes (page : List UInt8) (eastern : EastAsianDecoder := asciiOnly) : Dom :=
  (Page.ofBytes page eastern).dom

/-! ## Conversions -/

/-- What comes of the conversion of a page, with what there is to report about it. -/
structure Conversion where
  result : Except ConversionError Rendering
  notices : List Notice

/-- Renders the first element of a document that has the given name. -/
def convertDom (dom : Dom) (root : String) : Except ConversionError Rendering :=
  match dom.findTag? root with
  | some id => .ok (dom.render .standard (some id))
  | none => .error (.rootNotFound root)

/-- Converts the first element of a page that has the given name. -/
def Page.convert (page : Page) (root : String) : Conversion :=
  match convertDom page.dom root with
  | .ok rendering => { result := .ok rendering, notices := page.notices ++ rendering.notices }
  | .error error => { result := .error error, notices := page.notices }

/-- Converts the first element of a page that has the given name, given how pages are parsed. -/
def convertTextBy (parse : Parser) (page root : String) : Except ConversionError Rendering :=
  convertDom (parse page).dom root

/-- Like `convertTextBy`, for a page whose encoding is not known. -/
def convertBytesBy (decoder : Decoder) (parse : Parser) (page : List UInt8) (root : String) :
    Except ConversionError Rendering :=
  convertDom (Page.ofBytesBy decoder parse page).dom root

/-- Converts the first element of a page that has the given name. -/
def convertText (page root : String) : Except ConversionError Rendering :=
  convertTextBy Page.ofText page root

/-- Like `convertText`, for a page whose encoding is not known. -/
def convertBytes (page : List UInt8) (root : String) (eastern : EastAsianDecoder := asciiOnly) :
    Except ConversionError Rendering :=
  convertBytesBy (decodeRaw eastern) Page.ofText page root

end HtmlTemplate
