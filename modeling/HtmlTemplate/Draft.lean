import HtmlTemplate.Dom.Walk
import HtmlTemplate.Notice

/-!
# Documents under construction

A `Draft` is a document together with what a reader of markup keeps beside it: the layout mode, the
number of faults repaired so far, and the holders of the contents of `template` elements. Its
operations are the steps by which markup builds a document. `Draft.finish` gives the document and
what there is to report.
-/

namespace HtmlTemplate

/-- What is put into a document: a node that exists, or text. -/
inductive Content where
  | node (link : Link)
  | text (content : String)
  deriving DecidableEq

/-- A document under construction. -/
structure Draft where
  dom : Dom := .empty
  mode : CompatMode := .noQuirks
  faults : Nat := 0
  /-- For each element that was asked for its contents, the fragment that holds them. -/
  contents : List (Link × NodeId) := []

namespace Draft

/-- The draft of an empty document. -/
def empty : Draft := {}

/-- Adds a node that stands nowhere yet. -/
def create (draft : Draft) (payload : Payload) : Draft × NodeId :=
  let (dom, id) := draft.dom.create payload
  ({ draft with dom }, id)

/-- The name of an element; a node that is no element has the empty name. -/
def elementName (draft : Draft) (link : Link) : QualifiedName :=
  (draft.dom.elementName? link).getD .empty

/-- Puts content at the end of `parent`. -/
def append (draft : Draft) (parent : Link) (content : Content) : Draft :=
  match content with
  | .node link => { draft with dom := draft.dom.append parent link }
  | .text text => { draft with dom := draft.dom.appendText parent text }

/-- Puts content right before `sibling`; text becomes a node of its own. -/
def insertBefore (draft : Draft) (sibling : Link) (content : Content) : Draft :=
  match content with
  | .node link => { draft with dom := draft.dom.insertBefore sibling link }
  | .text text =>
    let (dom, id) := draft.dom.create (.text text)
    { draft with dom := dom.insertBefore sibling (some id) }

/-- Puts content that is misplaced inside `element` right before it, or at the end of `previous`
when `element` stands nowhere. -/
def appendBeside (draft : Draft) (element previous : Link) (content : Content) : Draft :=
  if (draft.dom.parent element).isSome then draft.insertBefore element content
  else draft.append previous content

/-- Puts a document type declaration at the end of the document. -/
def appendDoctype (draft : Draft) (name publicId systemId : String) : Draft :=
  let (dom, id) := draft.dom.create (.doctype name publicId systemId)
  { draft with dom := dom.append (some Dom.document) (some id) }

/-- The fragment that holds the contents of an element, made when it is first asked for. -/
def templateContents (draft : Draft) (element : Link) : Draft × NodeId :=
  match draft.contents.lookup element with
  | some id => (draft, id)
  | none =>
    let (dom, id) := draft.dom.create .fragment
    ({ draft with dom, contents := draft.contents ++ [(element, id)] }, id)

/-- Adds an attribute at the end of a list unless one of the same name is there. -/
def addAttribute (attributes : List Attribute) (attr : Attribute) : List Attribute :=
  if attributes.any (·.name == attr.name) then attributes else attributes ++ [attr]

/-- Adds to an element those attributes whose names it does not have yet. -/
def addMissingAttributes (draft : Draft) (element : Link) (attributes : List Attribute) : Draft :=
  { draft with
    dom := draft.dom.update element fun node =>
      match node.payload with
      | .element name old =>
        { node with payload := .element name (attributes.foldl addAttribute old) }
      | _ => node }

/-- Takes a node out of its parent. -/
def detach (draft : Draft) (link : Link) : Draft :=
  { draft with dom := draft.dom.detach link }

/-- Moves the children of a node, in order, to the end of another. -/
def reparentChildren (draft : Draft) (node parent : Link) : Draft :=
  { draft with
    dom := (draft.dom.children node).foldl
      (fun dom child => (dom.detach (some child)).append parent (some child)) draft.dom }

/-- Counts a fault of the markup. -/
def fault (draft : Draft) : Draft :=
  { draft with faults := draft.faults + 1 }

/-- Sets the layout mode. -/
def setMode (draft : Draft) (mode : CompatMode) : Draft :=
  { draft with mode }

/-- What there is to report about a finished draft. -/
def notices (draft : Draft) : List Notice :=
  (if draft.mode = .noQuirks then [] else [.compatibility draft.mode]) ++
    (if draft.faults = 0 then [] else [.repaired draft.faults])

/-- The document, and what there is to report about it. -/
def finish (draft : Draft) : Dom × List Notice :=
  (draft.dom, draft.notices)

end Draft

end HtmlTemplate
