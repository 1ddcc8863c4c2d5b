import HtmlTemplate.Dom.Node

/-!
# Groups of elements

The rules by which markup builds a document speak of groups of elements: those that bound a scope,
those whose end is implied, those that are special. A group is a test on qualified names.
-/

namespace HtmlTemplate.Markup

/-- A group of elements. -/
abbrev Group := QualifiedName → Bool

namespace Group

/-- The HTML elements of the given names. -/
def html (names : List String) : Group := fun name =>
  name.space == .html && names.contains name.localName

/-- A group without the HTML elements of the given names. -/
def without (group : Group) (names : List String) : Group := fun name =>
  group name && ! html names name

/-- The elements of MathML whose text is HTML text. -/
def mathText : Group := fun name =>
  name.space == .mathMl && ["mi", "mo", "mn", "ms", "mtext"].contains name.localName

/-- The elements of SVG that hold HTML. -/
def svgHtml : Group := fun name =>
  name.space == .svg && ["foreignObject", "desc", "title"].contains name.localName

/-- The bounds of the ordinary scope. -/
def scope : Group := fun name =>
  html ["applet", "caption", "html", "table", "td", "th", "marquee", "object", "select", "template"]
    name || mathText name || svgHtml name

/-- The bounds of the scope of list items. -/
def listScope : Group := fun name => scope name || html ["ol", "ul"] name

/-- The bounds of the scope of paragraphs. -/
def buttonScope : Group := fun name => scope name || html ["button"] name

/-- The bounds of the scope of tables. -/
def tableScope : Group := html ["html", "table", "template"]

/-- The elements whose end is implied by what follows. -/
def impliedEnd : Group :=
  html ["dd", "dt", "li", "option", "optgroup", "p", "rb", "rp", "rt", "rtc"]

/-- The elements whose end is implied by the end of a template. -/
def thoroughImpliedEnd : Group := fun name =>
  impliedEnd name ||
    html ["caption", "colgroup", "tbody", "td", "tfoot", "th", "thead", "tr"] name

/-- The headings. -/
def heading : Group := html ["h1", "h2", "h3", "h4", "h5", "h6"]

/-- The cells of tables. -/
def cell : Group := html ["td", "th"]

/-- The elements inside which content that is no part of a table is misplaced. -/
def tableParts : Group := html ["table", "tbody", "tfoot", "thead", "tr"]

/-- The elements in which rows stand. -/
def rowsContext : Group := html ["tbody", "tfoot", "thead", "template", "html"]

/-- The elements in which cells stand. -/
def cellsContext : Group := html ["tr", "template", "html"]

/-- The elements that have rules of their own. -/
def special : Group :=
  html ["address", "applet", "area", "article", "aside", "base", "basefont", "bgsound",
    "blockquote", "body", "br", "button", "caption", "center", "col", "colgroup", "dd", "details",
    "dir", "div", "dl", "dt", "embed", "fieldset", "figcaption", "figure", "footer", "form",
    "frame", "frameset", "h1", "h2", "h3", "h4", "h5", "h6", "head", "header", "hgroup", "hr",
    "html", "iframe", "img", "input", "isindex", "li", "link", "listing", "main", "marquee",
    "menu", "meta", "nav", "noembed", "noframes", "noscript", "object", "ol", "p", "param",
    "plaintext", "pre", "script", "section", "select", "source", "style", "summary", "table",
    "tbody", "td", "template", "textarea", "tfoot", "th", "thead", "title", "tr", "track", "ul",
    "wbr", "xmp"]

end Group

end HtmlTemplate.Markup
