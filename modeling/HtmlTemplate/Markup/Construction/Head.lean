import HtmlTemplate.Markup.Construction.Formatting
import HtmlTemplate.Markup.DeclaredEncoding
import HtmlTemplate.Markup.LayoutMode

/-!
# Rules before the body

The rules for what comes before the body of a page: the document type declaration, the `html` and
`head` elements, which are added where the markup leaves them out, and the elements that stand in
the head. The latter are also found inside the body and inside templates.
-/

namespace HtmlTemplate.Markup.Build

/-- Whether text is blank. -/
def isBlankText (characters : List Char) : Bool :=
  characters.all Ascii.isBlank

/-- Deals with a document type declaration, which counts only at the start of the page. -/
def doctypeRule (doctype : Doctype) : Build Unit := do
  if (← get).mode = .initial then
    modify fun c => { c with
      draft := (c.draft.appendDoctype (doctype.name.getD "") (doctype.publicId.getD "")
        (doctype.systemId.getD "")).setMode doctype.compatMode
      mode := .beforeHtml }
  else fault

/-- The rules at the start of the page. -/
def initialRule (token : Token) : Build Outcome := do
  let other : Build Outcome := do
    fault
    modify fun c => { c with draft := c.draft.setMode .quirks }
    retry .beforeHtml token
  match token with
  | .text characters => if isBlankText characters then return .done else other
  | .comment text =>
    putCommentIn (some Dom.document) text
    return .done
  | _ => other

/-- Adds and opens the `html` element. -/
def openRoot (tag : Tag) : Build Unit := do
  let id ← create (.element (.html "html") (attributesOf tag))
  push id
  putAt (.inside (some Dom.document)) (.node (some id))

/-- Whether an end tag is dealt with as if what it ends had been left out. -/
def endsImplied (tag : Tag) : Bool :=
  ["body", "html", "br"].contains tag.name

/-- The rules before the `html` element. -/
def beforeHtmlRule (token : Token) : Build Outcome := do
  let other : Build Outcome := do
    openRoot { name := "html" }
    retry .beforeHead token
  match token with
  | .text characters => if isBlankText characters then return .done else other
  | .comment text =>
    putCommentIn (some Dom.document) text
    return .done
  | .startTag tag =>
    if tag.name = "html" then
      openRoot tag
      enter .beforeHead
      return .done
    else other
  | .endTag tag => if tag.name = "head" || endsImplied tag then other else refuse
  | _ => other

/-- Deals with another `html` tag, whose attributes are added to the `html` element. -/
def htmlTagRule (tag : Tag) : Build Outcome := do
  fault
  let c ← get
  if ! c.inTemplate then addMissingAttributes c.root? tag
  return .done

/-- The rules before the `head` element. -/
def beforeHeadRule (token : Token) : Build Outcome := do
  let openHead (tag : Tag) : Build Unit := do
    let id ← openFor tag
    modify fun c => { c with head := some id, mode := .inHead }
  let other : Build Outcome := do
    openHead { name := "head" }
    return .again token
  match token with
  | .text characters => if isBlankText characters then return .done else other
  | .comment text =>
    putComment text
    return .done
  | .startTag tag =>
    if tag.name = "html" then htmlTagRule tag
    else if tag.name = "head" then
      openHead tag
      return .done
    else other
  | .endTag tag => if tag.name = "head" || endsImplied tag then other else refuse
  | _ => other

/-- Deals with the start tag of a template. -/
def templateRule (tag : Tag) : Build Outcome := do
  putMarker
  let _ ← openFor tag
  modify fun c => { c with
    framesetOk := false, mode := .inTemplate, templateModes := .inTemplate :: c.templateModes }
  return .done

/-- Deals with the end tag of a template. -/
def templateEndRule : Build Outcome := do
  if (← get).inTemplate then
    popWhile .thoroughImpliedEnd
    popThrough (.html ["template"])
    dropToMarker
    modify fun c => { c with templateModes := c.templateModes.tail }
    resetMode
    return .done
  else refuse

/-- The start tags of the elements of the head. -/
def headTags : List String :=
  ["base", "basefont", "bgsound", "link", "meta", "title", "noframes", "style", "script",
   "template"]

/-- Deals with the start tag of an element of the head that has no content. Reading is interrupted
if the tag declares an encoding. -/
def metadataRule (tag : Tag) : Build Outcome := do
  let _ ← putFor tag
  modify fun c => { c with interrupted := tag.declaresEncoding }
  return .done

/-- Deals with the start tag of an element of the head. -/
def headTagRule (tag : Tag) : Build Outcome :=
  match tag.name with
  | "title" => openText tag (.references tag.name)
  | "noframes" | "style" | "noscript" => openText tag (.raw tag.name)
  | "script" => openText tag (.script tag.name)
  | "template" => templateRule tag
  | _ => metadataRule tag

/-- The rules in the head. -/
def inHeadRule (token : Token) : Build Outcome := do
  let other : Build Outcome := do
    pop
    retry .afterHead token
  match token with
  | .text characters =>
    if isBlankText characters then
      putText characters
      return .done
    else other
  | .comment text =>
    putComment text
    return .done
  | .startTag tag =>
    if tag.name = "html" then htmlTagRule tag
    else if tag.name = "head" then refuse
    else if tag.name = "noscript" || headTags.contains tag.name then headTagRule tag
    else other
  | .endTag tag =>
    if tag.name = "head" then
      pop
      enter .afterHead
      return .done
    else if tag.name = "template" then templateEndRule
    else if endsImplied tag then other
    else refuse
  | _ => other

/-- The rules between head and body. -/
def afterHeadRule (token : Token) : Build Outcome := do
  let other : Build Outcome := do
    let _ ← openImplied "body"
    retry .inBody token
  match token with
  | .text characters =>
    if isBlankText characters then
      putText characters
      return .done
    else other
  | .comment text =>
    putComment text
    return .done
  | .startTag tag =>
    if tag.name = "html" then htmlTagRule tag
    else if tag.name = "body" then
      forbidFrameset
      enter .inBody
      opened tag
    else if tag.name = "frameset" then
      enter .inFrameset
      opened tag
    else if headTags.contains tag.name then
      fault
      match (← get).head with
      | none => return .done
      | some head =>
        push head
        let outcome ← headTagRule tag
        removeOpen head
        return outcome
    else if tag.name = "head" then refuse
    else other
  | .endTag tag =>
    if tag.name = "template" then templateEndRule
    else if endsImplied tag then other
    else refuse
  | _ => other

end HtmlTemplate.Markup.Build
