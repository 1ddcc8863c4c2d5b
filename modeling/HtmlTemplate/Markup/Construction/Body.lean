import HtmlTemplate.Markup.Construction.Head
import HtmlTemplate.Markup.Foreign

/-!
# Rules in the body

The rules for the body of a page. Start tags of blocks close an open paragraph, formatting elements
that were cut off are opened again for the text that follows, and end tags close what they name if
it is open in the right scope.
-/

namespace HtmlTemplate.Markup.Build

/-- Adds an element of another vocabulary, and opens it unless the tag closes itself. -/
def putForeign (space : Namespace) (tag : Tag) : Build Outcome := do
  let name : QualifiedName :=
    { qualifier := none, space, localName := Foreign.tagName space tag.name }
  let id ← putElement name (Foreign.attributes space tag)
  if ! tag.selfClosing then push id
  return .done

/-- Deals with text. -/
def bodyTextRule (characters : List Char) : Build Outcome := do
  reopenFormatting
  if ! isBlankText characters then forbidFrameset
  putText characters
  return .done

/-- Deals with another `body` tag, whose attributes are added to the body. -/
def bodyTagRule (tag : Tag) : Build Outcome := do
  fault
  let c ← get
  if let some body := c.body? then
    if ! c.inTemplate then
      forbidFrameset
      addMissingAttributes (some body) tag
  return .done

/-- Deals with a `frameset`, which replaces the body if nothing has been put there. -/
def framesetTagRule (tag : Tag) : Build Outcome := do
  fault
  let c ← get
  match c.body? with
  | none => return .done
  | some body =>
    if c.framesetOk then
      detach body
      modify fun c => { c with stack := c.root?.toList, mode := .inFrameset }
      opened tag
    else return .done

/-- Deals with a `form`; forms do not nest. -/
def formTagRule (tag : Tag) : Build Outcome := do
  let c ← get
  if c.form.isSome && ! c.inTemplate then refuse
  else
    endParagraph
    let id ← openFor tag
    if ! c.inTemplate then modify fun c => { c with form := some id }
    return .done

/-- Deals with an item of a list, which ends the item before it. -/
def itemTagRule (tag : Tag) (ended : List String) : Build Outcome := do
  forbidFrameset
  let c ← get
  let bounds := Group.special.without ["address", "div", "p"]
  match c.stack.find? fun id => c.isIn (.html ended) id || c.isIn bounds id with
  | none => pure ()
  | some id =>
    if c.isIn (.html ended) id then
      let name := (c.name id).localName
      impliedEndExcept [name]
      popThrough (.html [name])
  endParagraph
  opened tag

/-- Deals with a `button`; buttons do not nest. -/
def buttonTagRule (tag : Tag) : Build Outcome := do
  if (← get).inScope .scope ["button"] then
    fault
    close "button"
  reopenFormatting
  forbidFrameset
  opened tag

/-- Deals with a `nobr`, which ends another one. -/
def nobrTagRule (tag : Tag) : Build Outcome := do
  reopenFormatting
  if (← get).inScope .scope ["nobr"] then
    fault
    adopt "nobr"
    reopenFormatting
  openFormatting tag

/-- Whether a tag is that of an input that is not shown. -/
def isHiddenInput (tag : Tag) : Bool :=
  (tag.attribute? "type").any (Ascii.sameLetters · "hidden")

/-- Deals with an element that has no content and stands in text. -/
def voidTagRule (tag : Tag) : Build Outcome := do
  reopenFormatting
  let _ ← putFor tag
  if ! (tag.name = "input" && isHiddenInput tag) then forbidFrameset
  return .done

/-- Deals with an `input`, which ends a `select` that is open. -/
def inputTagRule (tag : Tag) : Build Outcome := do
  if (← get).inScope .scope ["select"] then
    fault
    popThrough (.html ["select"])
  voidTagRule tag

/-- Deals with a `select`. Inside another one it only ends that one. -/
def selectTagRule (tag : Tag) : Build Outcome := do
  if (← get).inScope .scope ["select"] then
    fault
    popThrough (.html ["select"])
    return .done
  else
    reopenFormatting
    forbidFrameset
    opened tag

/-- Deals with an `option` or `optgroup`, which ends an `option` before it. Inside a `select` all
elements are ended whose end is implied, groups of options apart if an option follows. -/
def optionTagRule (tag : Tag) : Build Outcome := do
  let c ← get
  if c.inScope .scope ["select"] then
    impliedEndExcept (if tag.name = "option" then ["optgroup"] else [])
  else if c.currentIsIn (.html ["option"]) then pop
  reopenFormatting
  opened tag

/-- Deals with an `hr`. Inside a `select` it ends options and groups of options. -/
def hrTagRule (tag : Tag) : Build Outcome := do
  endParagraph
  if (← get).inScope .scope ["select"] then impliedEndExcept []
  let _ ← putFor tag
  forbidFrameset
  return .done

/-- Deals with a part of a `ruby` annotation. -/
def rubyTagRule (tag : Tag) (kept : List String) : Build Outcome := do
  if (← get).inScope .scope ["ruby"] then impliedEndExcept kept
  opened tag

/-- The start tags of blocks without further rules. -/
def blockTags : List String :=
  ["address", "article", "aside", "blockquote", "center", "details", "dialog", "dir", "div", "dl",
   "fieldset", "figcaption", "figure", "footer", "header", "hgroup", "main", "menu", "nav", "ol",
   "p", "search", "section", "summary", "ul"]

/-- The names of headings. -/
def headingTags : List String := ["h1", "h2", "h3", "h4", "h5", "h6"]

/-- The names of formatting elements, `a` and `nobr` apart. -/
def formattingTags : List String :=
  ["b", "big", "code", "em", "font", "i", "s", "small", "strike", "strong", "tt", "u"]

/-- The start tags that have no place in the body. -/
def misplacedTags : List String :=
  ["caption", "col", "colgroup", "frame", "head", "tbody", "td", "tfoot", "th", "thead", "tr"]

/-- The rules for start tags in the body. -/
def bodyStartRule (tag : Tag) : Build Outcome := do
  let name := tag.name
  if name = "html" then htmlTagRule tag
  else if headTags.contains name then headTagRule tag
  else if name = "body" then bodyTagRule tag
  else if name = "frameset" then framesetTagRule tag
  else if blockTags.contains name then
    endParagraph
    opened tag
  else if headingTags.contains name then
    endParagraph
    if (← get).currentIsIn .heading then
      fault
      pop
    opened tag
  else if name = "pre" || name = "listing" then
    endParagraph
    forbidFrameset
    modify fun c => { c with dropLineFeed := true }
    opened tag
  else if name = "form" then formTagRule tag
  else if name = "li" then itemTagRule tag ["li"]
  else if name = "dd" || name = "dt" then itemTagRule tag ["dd", "dt"]
  else if name = "plaintext" then
    endParagraph
    modify fun c => { c with model := .plain }
    opened tag
  else if name = "button" then buttonTagRule tag
  else if name = "a" then
    closeLink
    reopenAndFormat tag
  else if formattingTags.contains name then reopenAndFormat tag
  else if name = "nobr" then nobrTagRule tag
  else if ["applet", "marquee", "object"].contains name then
    reopenFormatting
    let _ ← openFor tag
    putMarker
    forbidFrameset
    return .done
  else if name = "table" then
    if (← get).draft.mode ≠ .quirks then endParagraph
    forbidFrameset
    enter .inTable
    opened tag
  else if ["area", "br", "embed", "img", "keygen", "wbr"].contains name then voidTagRule tag
  else if name = "image" then voidTagRule { tag with name := "img" }
  else if name = "input" then inputTagRule tag
  else if ["param", "source", "track"].contains name then added tag
  else if name = "hr" then hrTagRule tag
  else if name = "textarea" then
    modify fun c => { c with dropLineFeed := true }
    forbidFrameset
    openText tag (.references name)
  else if name = "xmp" then
    endParagraph
    reopenFormatting
    forbidFrameset
    openText tag (.raw name)
  else if name = "iframe" then
    forbidFrameset
    openText tag (.raw name)
  else if name = "noembed" || name = "noscript" then openText tag (.raw name)
  else if name = "select" then selectTagRule tag
  else if name = "option" || name = "optgroup" then optionTagRule tag
  else if name = "rb" || name = "rtc" then rubyTagRule tag []
  else if name = "rp" || name = "rt" then rubyTagRule tag ["rtc"]
  else if name = "math" then putForeign .mathMl tag
  else if name = "svg" then putForeign .svg tag
  else if misplacedTags.contains name then refuse
  else
    reopenFormatting
    opened tag

/-- Deals with the end tag of the body. -/
def bodyEndRule : Build Outcome := do
  if (← get).inScope .scope ["body"] then
    enter .afterBody
    return .done
  else refuse

/-- Deals with the end tag of a form. -/
def formEndRule : Build Outcome := do
  let c ← get
  if c.inTemplate then
    if c.inScope .scope ["form"] then
      close "form"
      return .done
    else refuse
  else
    modify fun c => { c with form := none }
    match c.form with
    | none => refuse
    | some form =>
      if c.inScopeSuch .scope (· == form) then
        impliedEndExcept []
        removeOpen form
        return .done
      else refuse

/-- Deals with the end tag of an element that is open in a scope. -/
def scopedEndRule (bounds : Group) (kept : List String) (name : String) : Build Outcome := do
  if (← get).inScope bounds [name] then
    impliedEndExcept kept
    popThrough (.html [name])
    return .done
  else refuse

/-- The end tags of blocks without further rules. -/
def blockEndTags : List String :=
  ["address", "article", "aside", "blockquote", "button", "center", "details", "dialog", "dir",
   "div", "dl", "fieldset", "figcaption", "figure", "footer", "header", "hgroup", "listing",
   "main", "menu", "nav", "ol", "pre", "search", "section", "select", "summary", "ul"]

/-- The rules for end tags in the body. -/
def bodyEndTagRule (tag : Tag) : Build Outcome := do
  let name := tag.name
  if name = "template" then templateEndRule
  else if name = "body" then bodyEndRule
  else if name = "html" then
    if (← get).inScope .scope ["body"] then retry .afterBody (.endTag tag) else refuse
  else if blockEndTags.contains name then scopedEndRule .scope [] name
  else if name = "form" then formEndRule
  else if name = "p" then
    if ! (← get).inScope .buttonScope ["p"] then
      fault
      let _ ← openImplied "p"
    closeParagraph
    return .done
  else if name = "li" then scopedEndRule .listScope [name] name
  else if name = "dd" || name = "dt" then scopedEndRule .scope [name] name
  else if headingTags.contains name then
    if (← get).inScope .scope headingTags then
      impliedEndExcept []
      popThrough .heading
      return .done
    else refuse
  else if name = "a" || name = "nobr" || formattingTags.contains name then
    adopt name
    return .done
  else if ["applet", "marquee", "object"].contains name then
    if (← get).inScope .scope [name] then
      close name
      dropToMarker
      return .done
    else refuse
  else if name = "br" then
    fault
    voidTagRule { name := "br" }
  else
    closeOrdinary name
    return .done

/-- Deals with the end of the page inside templates, of which the innermost is closed. -/
def templateEndOfInputRule : Build Outcome := do
  if (← get).inTemplate then
    fault
    popThrough (.html ["template"])
    dropToMarker
    modify fun c => { c with templateModes := c.templateModes.tail }
    resetMode
    return .again .endOfInput
  else return .done

/-- The rules in the body. -/
def inBodyRule (token : Token) : Build Outcome := do
  match token with
  | .text characters => bodyTextRule characters
  | .comment text =>
    putComment text
    return .done
  | .startTag tag => bodyStartRule tag
  | .endTag tag => bodyEndTagRule tag
  | .endOfInput =>
    if (← get).templateModes.isEmpty then return .done else templateEndOfInputRule
  | .null | .fault | .doctype _ => refuse

/-- The rules inside an element without markup. -/
def textRule (token : Token) : Build Outcome := do
  match token with
  | .text characters =>
    putText characters
    return .done
  | .endTag tag =>
    pop
    modify fun c => { c with mode := c.returnMode, interrupted := tag.name = "script" }
    return .done
  | .endOfInput =>
    fault
    pop
    modify fun c => { c with mode := c.returnMode }
    return .again token
  | _ => refuse

end HtmlTemplate.Markup.Build
