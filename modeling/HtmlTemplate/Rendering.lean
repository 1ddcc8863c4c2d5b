import HtmlTemplate.Constructor
import HtmlTemplate.Dom.Walk
import HtmlTemplate.Literal
import HtmlTemplate.Notice

/-!
# Rendering nodes in the template language

`Dom.render` turns a node and everything below it into source text of the template language:

* an element is its name in lower case, its attributes as `[name value; … ] `, and its content,
  which is nothing, one string or a bracketed list of nodes by the kind that the catalog gives to
  the name;
* a text is `txt` and a string, a comment is `comment` and a string;
* any other node has no form, and is left out and listed.

`Dom.write` does the work: it adds the rendering of a node at the end of a `Rendering`.
-/

namespace HtmlTemplate

/-- A node that was left out of a rendering. -/
structure Skipped where
  id : NodeId
  kind : Kind
  deriving DecidableEq

/-- Source text under construction, with the nodes left out so far in document order. -/
structure Rendering where
  content : String := ""
  skipped : List Skipped := []
  notices : List Notice := []
  deriving DecidableEq

namespace Rendering

/-- The rendering of nothing. -/
def empty : Rendering := {}

/-- Adds source text. -/
def push (out : Rendering) (text : String) : Rendering :=
  { out with content := out.content ++ text }

/-- Adds a string literal. -/
def pushText (out : Rendering) (text : String) : Rendering :=
  { out with content := Literal.pushText out.content text }

/-- Adds a notice. -/
def note (out : Rendering) (notice : Notice) : Rendering :=
  { out with notices := out.notices ++ [notice] }

/-- Leaves a node out. -/
def skip (out : Rendering) (id : NodeId) (kind : Kind) : Rendering :=
  { out with
    skipped := out.skipped ++ [{ id, kind }]
    notices := out.notices ++ [.skipped id kind] }

/-- Adds an attribute. The form of the value goes by the name as the markup writes it. -/
def pushAttribute (catalog : Catalog) (out : Rendering) (attr : Attribute) : Rendering :=
  let name := attr.qualifiedName
  out.push (Constructor.ofName catalog name)
    |>.push " "
    |>.push (Literal.ofValue catalog (some attr.value) (some name))
    |>.push "; "

/-- Adds the name of an element and its attributes. -/
def pushHeader (catalog : Catalog) (out : Rendering) (tag : String)
    (attributes : List Attribute) : Rendering :=
  (attributes.foldl (pushAttribute catalog) ((out.push tag).push " [")).push "] "

end Rendering

/-- Whether nodes of a kind have a form in the template language. -/
def Kind.hasForm : Kind → Bool
  | .element | .text | .comment => true
  | .document | .fragment | .doctype | .instruction => false

namespace Dom

/-- The kind of a node that has no form in the template language. -/
def formless? (dom : Dom) (id : NodeId) : Option Kind :=
  (dom.kind? (some id)).filter (! ·.hasForm)

/-- Adds one item of an element's list: a child on a line of its own, written by `writeChild`,
unless it has no form. -/
def writeItem (dom : Dom) (writeChild : NodeId → Rendering → Rendering) (out : Rendering)
    (child : NodeId) : Rendering :=
  match dom.formless? child with
  | some kind => out.skip child kind
  | none => (writeChild child (out.push "\n")).push ";"

/-- Adds the rendering of a node whose descendants reach down less than `levels` levels. -/
def write (catalog : Catalog) (dom : Dom) : Nat → NodeId → Rendering → Rendering
  | 0, _, out => out
  | levels + 1, id, out =>
    match dom.payload? (some id) with
    | none => out.note (.dangling (some id))
    | some (.comment text) => (out.push "comment ").pushText text
    | some (.text text) => (out.push "txt ").pushText text
    | some (.element name attributes) =>
      let tag := Ascii.lower name.localName
      let opened := out.pushHeader catalog tag attributes
      match catalog.tagKind tag with
      | .void => opened
      | .text => opened.pushText (dom.textContent (some id))
      | .normal =>
        ((dom.children (some id)).foldl (dom.writeItem (write catalog dom levels))
          (opened.push "[")).push "]"
    | some payload => out.skip id payload.kind

/-- The rendering of a node and everything below it. -/
def render (catalog : Catalog) (dom : Dom) (root : Link) : Rendering :=
  let out := match root with
    | none => Rendering.empty.note (.dangling none)
    | some id => dom.write catalog (dom.size + 1) id .empty
  out.note (.rendered out.content.utf8ByteSize out.skipped.length)

end Dom

end HtmlTemplate
