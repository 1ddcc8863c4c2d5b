import HtmlTemplate.Ascii
import HtmlTemplate.Dom.Node
import HtmlTemplate.Markup.Token

/-!
# Names in foreign content

Tags are read with names in lower case, but SVG and MathML have names with capital letters, and some
attributes belong to other vocabularies. `Foreign.tagName` and `Foreign.attributes` give the names
that the elements of a vocabulary and their attributes get in the document.
-/

namespace HtmlTemplate.Markup.Foreign

/-- The elements of SVG whose names have capital letters. -/
def svgTags : List String :=
  ["altGlyph", "altGlyphDef", "altGlyphItem", "animateColor", "animateMotion",
   "animateTransform", "clipPath", "feBlend", "feColorMatrix", "feComponentTransfer",
   "feComposite", "feConvolveMatrix", "feDiffuseLighting", "feDisplacementMap",
   "feDistantLight", "feDropShadow", "feFlood", "feFuncA", "feFuncB", "feFuncG", "feFuncR",
   "feGaussianBlur", "feImage", "feMerge", "feMergeNode", "feMorphology", "feOffset",
   "fePointLight", "feSpecularLighting", "feSpotLight", "feTile", "feTurbulence",
   "foreignObject", "glyphRef", "linearGradient", "radialGradient", "textPath"]

/-- The attributes of SVG whose names have capital letters. -/
def svgAttributes : List String :=
  ["attributeName", "attributeType", "baseFrequency", "baseProfile", "calcMode",
   "clipPathUnits", "diffuseConstant", "edgeMode", "filterUnits", "glyphRef",
   "gradientTransform", "gradientUnits", "kernelMatrix", "kernelUnitLength", "keyPoints",
   "keySplines", "keyTimes", "lengthAdjust", "limitingConeAngle", "markerHeight", "markerUnits",
   "markerWidth", "maskContentUnits", "maskUnits", "numOctaves", "pathLength",
   "patternContentUnits", "patternTransform", "patternUnits", "pointsAtX", "pointsAtY",
   "pointsAtZ", "preserveAlpha", "preserveAspectRatio", "primitiveUnits", "refX", "refY",
   "repeatCount", "repeatDur", "requiredExtensions", "requiredFeatures", "specularConstant",
   "specularExponent", "spreadMethod", "startOffset", "stdDeviation", "stitchTiles",
   "surfaceScale", "systemLanguage", "tableValues", "targetX", "targetY", "textLength",
   "viewBox", "viewTarget", "xChannelSelector", "yChannelSelector", "zoomAndPan"]

/-- The attributes of MathML whose names have capital letters. -/
def mathMlAttributes : List String := ["definitionURL"]

/-- The attributes that belong to the vocabulary of links. -/
def xlinkAttributes : List String :=
  ["actuate", "arcrole", "href", "role", "show", "title", "type"]

/-- The entry of a list that is `name` up to the case of letters, or else `name`. -/
def respell (known : List String) (name : String) : String :=
  (known.find? (Ascii.lower · == name)).getD name

/-- The name of an element of a vocabulary. -/
def tagName (space : Namespace) (name : String) : String :=
  if space = .svg then respell svgTags name else name

/-- The name of an attribute without a vocabulary of its own. -/
def plainAttributeName (space : Namespace) (name : String) : String :=
  match space with
  | .svg => respell svgAttributes name
  | .mathMl => respell mathMlAttributes name
  | _ => name

/-- The attributes that belong to a vocabulary of their own, by the names that the markup writes. -/
def qualifiedNames : List (String × QualifiedName) :=
  xlinkAttributes.map (fun name =>
    ("xlink:" ++ name, { qualifier := some "xlink", space := .xlink, localName := name })) ++
  [("xml:lang", { qualifier := some "xml", space := .xml, localName := "lang" }),
   ("xml:space", { qualifier := some "xml", space := .xml, localName := "space" }),
   ("xmlns", { qualifier := some "", space := .xmlns, localName := "xmlns" }),
   ("xmlns:xlink", { qualifier := some "xmlns", space := .xmlns, localName := "xlink" })]

/-- The name of an attribute of an element of a vocabulary. -/
def attributeName (space : Namespace) (name : String) : QualifiedName :=
  (qualifiedNames.lookup name).getD (.plain (plainAttributeName space name))

/-- The attributes of a tag, for an element of a vocabulary. -/
def attributes (space : Namespace) (tag : Tag) : List Attribute :=
  tag.attributes.map fun (name, value) => { name := attributeName space name, value }

/-- The start tags that end foreign content. -/
def breakoutTags : List String :=
  ["b", "big", "blockquote", "body", "br", "center", "code", "dd", "div", "dl", "dt", "em",
   "embed", "h1", "h2", "h3", "h4", "h5", "h6", "head", "hr", "i", "img", "li", "listing", "menu",
   "meta", "nobr", "ol", "p", "pre", "ruby", "s", "small", "span", "strong", "strike", "sub",
   "sup", "table", "tt", "u", "ul", "var"]

/-- Whether a start tag ends foreign content. A `font` does if it has an attribute of HTML. -/
def breaksOut (tag : Tag) : Bool :=
  breakoutTags.contains tag.name ||
    (tag.name == "font" &&
      tag.attributes.any fun (name, _) => ["color", "face", "size"].contains name)

end HtmlTemplate.Markup.Foreign
