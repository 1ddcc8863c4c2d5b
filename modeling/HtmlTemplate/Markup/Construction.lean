import HtmlTemplate.Draft
import HtmlTemplate.Markup.Lexer
import HtmlTemplate.Markup.Vocabulary

/-!
# Building a document from tokens

A `Construction` is a document under construction with all that decides where the next token goes:
the insertion mode, the elements that are still open, and the formatting elements that are opened
again where they were cut off. A rule is a `Build` action, and answers with an `Outcome`: a token is
either dealt with, or to be looked at again in the mode that the rule has set.
-/

namespace HtmlTemplate.Markup

/-- Which part of the rules is in force. -/
inductive Mode where
  | initial
  | beforeHtml
  | beforeHead
  | inHead
  | afterHead
  | inBody
  /-- Inside an element without markup. -/
  | text
  | inTable
  /-- Collecting the text of a table. -/
  | inTableText
  | inCaption
  | inColumnGroup
  | inTableBody
  | inRow
  | inCell
  | inTemplate
  | afterBody
  | inFrameset
  | afterFrameset
  | afterAfterBody
  | afterAfterFrameset
  deriving DecidableEq

/-- A formatting element that was opened, with its tag. -/
structure Formatting where
  id : NodeId
  tag : Tag

/-- A document under construction. -/
structure Construction where
  draft : Draft := .empty
  mode : Mode := .initial
  /-- The mode to return to at the end of text. -/
  returnMode : Mode := .initial
  /-- The modes of the templates that are open, innermost first. -/
  templateModes : List Mode := []
  /-- The text of a table that is being collected, last run first. -/
  tableText : List (List Char) := []
  /-- The elements that are open, innermost first. -/
  stack : List NodeId := []
  /-- The formatting elements, latest first; `none` is a marker that bounds what may be opened
  again. -/
  formatting : List (Option Formatting) := []
  /-- The `head` element. -/
  head : Option NodeId := none
  /-- The `form` element that is open. -/
  form : Option NodeId := none
  /-- Whether a `frameset` may still replace the body. -/
  framesetOk : Bool := true
  /-- Whether a line feed at the front of the next token is dropped. -/
  dropLineFeed : Bool := false
  /-- Whether content that is misplaced in a table goes before it. -/
  fostering : Bool := false
  /-- How the text that follows is read. -/
  model : TextModel := .ordinary
  /-- Reading has just been interrupted, as it is by the end of a script and by the declaration of
  an encoding. -/
  interrupted : Bool := false
  /-- How many tokens were dealt with as misplaced in a table. -/
  misplaced : Nat := 0

namespace Construction

/-- The name of an element. -/
def name (c : Construction) (id : NodeId) : QualifiedName :=
  c.draft.elementName (some id)

/-- Whether an element belongs to a group. -/
def isIn (c : Construction) (group : Group) (id : NodeId) : Bool :=
  group (c.name id)

/-- Whether the innermost open element belongs to a group. -/
def currentIsIn (c : Construction) (group : Group) : Bool :=
  c.stack.head?.any (c.isIn group)

/-- The outermost open element. -/
def root? (c : Construction) : Option NodeId :=
  c.stack.getLast?

/-- The body, if it is open. -/
def body? (c : Construction) : Option NodeId :=
  (c.stack.reverse[1]?).filter (c.isIn (.html ["body"]))

/-- Whether a wanted element is open and no bound stands before it. -/
def inScopeSuch (c : Construction) (bounds : Group) (wanted : NodeId → Bool) : Bool :=
  match c.stack.find? fun id => wanted id || c.isIn bounds id with
  | some id => wanted id
  | none => false

/-- Whether an HTML element of one of the names is open and no bound stands before it. -/
def inScope (c : Construction) (bounds : Group) (names : List String) : Bool :=
  c.inScopeSuch bounds (c.isIn (.html names))

/-- Whether a `template` is open. -/
def inTemplate (c : Construction) : Bool :=
  c.stack.any (c.isIn (.html ["template"]))

/-- The formatting elements behind the last marker, latest first. -/
def recentFormatting (c : Construction) : List Formatting :=
  (c.formatting.takeWhile (·.isSome)).filterMap id

/-- The formatting entry of an element. -/
def formatting? (c : Construction) (id : NodeId) : Option Formatting :=
  (c.formatting.filterMap (·)).find? (·.id == id)

/-- The mode that the open elements call for. An element inside none of them decides as the
outermost one. -/
def modeOf (c : Construction) : List NodeId → Mode
  | [] => .inBody
  | id :: outer =>
    let name := c.name id
    if name.space != .html then modeOf c outer
    else match name.localName with
      | "td" | "th" => if outer.isEmpty then .inBody else .inCell
      | "tr" => .inRow
      | "tbody" | "thead" | "tfoot" => .inTableBody
      | "caption" => .inCaption
      | "colgroup" => .inColumnGroup
      | "table" => .inTable
      | "template" => c.templateModes.head?.getD .inBody
      | "head" => if outer.isEmpty then .inBody else .inHead
      | "body" => .inBody
      | "frameset" => .inFrameset
      | "html" => if c.head.isSome then .afterHead else .beforeHead
      | _ => modeOf c outer

end Construction

/-- How a token was dealt with. -/
inductive Outcome where
  | done
  /-- The token is to be looked at again. -/
  | again (token : Token)

/-- A step of the construction. -/
abbrev Build := StateM Construction

namespace Build

/-- Counts a fault of the markup. -/
def fault : Build Unit :=
  modify fun c => { c with draft := c.draft.fault }

/-- Drops the token, which is a fault. -/
def refuse : Build Outcome := do
  fault
  return .done

/-- Looks at a token again in another mode. -/
def retry (mode : Mode) (token : Token) : Build Outcome := do
  modify fun c => { c with mode }
  return .again token

/-- Goes on in another mode. -/
def enter (mode : Mode) : Build Unit :=
  modify fun c => { c with mode }

/-- A `frameset` may not replace the body any more. -/
def forbidFrameset : Build Unit :=
  modify fun c => { c with framesetOk := false }

/-- Goes on in the mode that the open elements call for. -/
def resetMode : Build Unit :=
  modify fun c => { c with mode := c.modeOf c.stack }

/-- Opens an element. -/
def push (id : NodeId) : Build Unit :=
  modify fun c => { c with stack := id :: c.stack }

/-- Closes the innermost open element. -/
def pop : Build Unit :=
  modify fun c => { c with stack := c.stack.tail }

/-- Closes elements up to and with the innermost one of a group. -/
def popThrough (group : Group) : Build Unit :=
  modify fun c => { c with stack := (c.stack.dropWhile (! c.isIn group ·)).tail }

/-- Closes elements until one of a group is innermost. -/
def popTo (group : Group) : Build Unit :=
  modify fun c => { c with stack := c.stack.dropWhile (! c.isIn group ·) }

/-- Closes the innermost elements as long as they belong to a group. -/
def popWhile (group : Group) : Build Unit :=
  modify fun c => { c with stack := c.stack.dropWhile (c.isIn group) }

/-- Closes the elements whose end is implied, those of the given names apart. -/
def impliedEndExcept (names : List String) : Build Unit :=
  popWhile (Group.impliedEnd.without names)

/-- Closes the elements whose end is implied, and then elements through the one of a name. -/
def close (name : String) : Build Unit := do
  impliedEndExcept []
  popThrough (.html [name])

/-- Takes an element out of the open ones. -/
def removeOpen (id : NodeId) : Build Unit :=
  modify fun c => { c with stack := c.stack.filter (· != id) }

/-- Closes the paragraph that is open in the scope of paragraphs. -/
def closeParagraph : Build Unit := do
  impliedEndExcept ["p"]
  popThrough (.html ["p"])

/-- Closes a paragraph if one is open in the scope of paragraphs. -/
def endParagraph : Build Unit := do
  if (← get).inScope .buttonScope ["p"] then closeParagraph

/-- Adds a node that stands nowhere yet. -/
def create (payload : Payload) : Build NodeId :=
  modifyGet fun c =>
    let (draft, id) := c.draft.create payload
    (id, { c with draft })

/-- The fragment that holds the contents of a template. -/
def templateContents (id : NodeId) : Build NodeId :=
  modifyGet fun c =>
    let (draft, contents) := c.draft.templateContents (some id)
    (contents, { c with draft })

/-- Where content goes. -/
inductive Place where
  /-- At the end of a node. -/
  | inside (parent : Link)
  /-- Before an element, or inside the other if the first stands nowhere. -/
  | beside (element previous : Link)

/-- Where content goes that is misplaced in a table: into the innermost open template, or before the
innermost open table. -/
def fosterPlace : List NodeId → Build Place
  | [] => return .inside (← get).root?
  | id :: outer => do
    let c ← get
    if c.isIn (.html ["template"]) id then return .inside (some (← templateContents id))
    else if c.isIn (.html ["table"]) id then return .beside (some id) outer.head?
    else fosterPlace outer

/-- Where content goes that is put into `target`. -/
def placeIn (target : Link) : Build Place := do
  let c ← get
  if c.fostering && target.any (c.isIn .tableParts) then fosterPlace c.stack
  else match target with
    | some id =>
      if c.isIn (.html ["template"]) id then return .inside (some (← templateContents id))
      else return .inside target
    | none => return .inside none

/-- A draft with content put at a place. -/
def Place.put (place : Place) (draft : Draft) (content : Content) : Draft :=
  match place with
  | .inside parent => draft.append parent content
  | .beside element previous => draft.appendBeside element previous content

/-- Puts content at a place. -/
def putAt (place : Place) (content : Content) : Build Unit :=
  modify fun c => { c with draft := place.put c.draft content }

/-- Puts content where the innermost open element is. -/
def put (content : Content) : Build Unit := do
  putAt (← placeIn (← get).stack.head?) content

/-- Adds text. -/
def putText (characters : List Char) : Build Unit :=
  put (.text (String.ofList characters))

/-- Adds a comment. -/
def putComment (text : String) : Build Unit := do
  put (.node (some (← create (.comment text))))

/-- Adds a comment at the end of a node. -/
def putCommentIn (parent : Link) (text : String) : Build Unit := do
  putAt (.inside parent) (.node (some (← create (.comment text))))

/-- Adds an element. -/
def putElement (name : QualifiedName) (attributes : List Attribute) : Build NodeId := do
  let id ← create (.element name attributes)
  put (.node (some id))
  return id

/-- The attributes of a tag. -/
def attributesOf (tag : Tag) : List Attribute :=
  tag.attributes.map fun (name, value) => .plain name value

/-- Adds the HTML element of a tag without opening it. -/
def putFor (tag : Tag) : Build NodeId :=
  putElement (.html tag.name) (attributesOf tag)

/-- Adds and opens the HTML element of a tag. -/
def openFor (tag : Tag) : Build NodeId := do
  let id ← putFor tag
  push id
  return id

/-- Adds and opens the HTML element of a tag, and is done with the token. -/
def opened (tag : Tag) : Build Outcome := do
  let _ ← openFor tag
  return .done

/-- Adds the HTML element of a tag without opening it, and is done with the token. -/
def added (tag : Tag) : Build Outcome := do
  let _ ← putFor tag
  return .done

/-- Adds and opens an HTML element that the markup does not write. -/
def openImplied (name : String) : Build NodeId :=
  openFor { name }

/-- Adds and opens the HTML element of a tag, whose text is read in a way of its own. -/
def openText (tag : Tag) (model : TextModel) : Build Outcome := do
  let _ ← openFor tag
  modify fun c => { c with returnMode := c.mode, mode := .text, model }
  return .done

/-- Adds attributes to an element unless it has them. -/
def addMissingAttributes (id : Link) (tag : Tag) : Build Unit :=
  modify fun c => { c with draft := c.draft.addMissingAttributes id (attributesOf tag) }

/-- Takes a node out of its parent. -/
def detach (id : NodeId) : Build Unit :=
  modify fun c => { c with draft := c.draft.detach (some id) }

/-- Puts a marker behind the formatting elements. -/
def putMarker : Build Unit :=
  modify fun c => { c with formatting := none :: c.formatting }

/-- Drops the formatting elements behind the last marker, and the marker. -/
def dropToMarker : Build Unit :=
  modify fun c => { c with formatting := (c.formatting.dropWhile (·.isSome)).tail }

/-- Drops the formatting entry of an element. -/
def removeFormatting (id : NodeId) : Build Unit :=
  modify fun c => { c with formatting := c.formatting.filter fun entry => ! entry.any (·.id == id) }

end Build

end HtmlTemplate.Markup
