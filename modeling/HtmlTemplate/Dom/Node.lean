/-!
# Nodes of a document

A `Node` holds a `Payload`, which is what the node says, and five links to other nodes, which say
where it stands. A `Link` either names a node by its number or is absent. Nothing here asks that a
link names a node that exists.
-/

namespace HtmlTemplate

/-- The number of a node, counted from zero in the order of creation. -/
abbrev NodeId := Nat

/-- A reference to a node, or its absence. -/
abbrev Link := Option NodeId

/-- The vocabulary a name is taken from. -/
inductive Namespace where
  | none
  | html
  | mathMl
  | svg
  | xlink
  | xml
  | xmlns
  /-- A vocabulary that HTML does not know, named by its identifier. -/
  | other (uri : String)
  deriving DecidableEq

/-- The name of an element or attribute. The qualifier is what the markup writes before a colon; an
empty qualifier differs from an absent one. -/
structure QualifiedName where
  qualifier : Option String
  space : Namespace
  localName : String
  deriving DecidableEq

namespace QualifiedName

/-- The name of an HTML element. -/
def html (name : String) : QualifiedName :=
  { qualifier := none, space := .html, localName := name }

/-- A name in no vocabulary, such as that of an ordinary attribute. -/
def plain (name : String) : QualifiedName :=
  { qualifier := none, space := .none, localName := name }

/-- The name of whatever has no name. -/
def empty : QualifiedName := plain ""

/-- The name as the markup writes it. -/
def text (name : QualifiedName) : String :=
  match name.qualifier with
  | some qualifier => qualifier ++ ":" ++ name.localName
  | none => name.localName

end QualifiedName

/-- An attribute with its value. -/
structure Attribute where
  name : QualifiedName
  value : String
  deriving DecidableEq

namespace Attribute

/-- An attribute in no vocabulary. -/
def plain (name value : String) : Attribute :=
  { name := .plain name, value }

/-- The attribute's name as the markup writes it. -/
def qualifiedName (attr : Attribute) : String :=
  attr.name.text

end Attribute

/-- The kinds of node. -/
inductive Kind where
  | document
  | fragment
  | element
  | text
  | comment
  | doctype
  | instruction
  deriving DecidableEq

/-- The word for a kind of node in reports. -/
def Kind.word : Kind → String
  | .document => "document"
  | .fragment => "document-fragment"
  | .element => "element"
  | .text => "text"
  | .comment => "comment"
  | .doctype => "doctype"
  | .instruction => "processing-instruction"

/-- What a node says. -/
inductive Payload where
  | document
  /-- A holder for nodes that stand outside the document. -/
  | fragment
  /-- An element with its attributes in the order of the markup. -/
  | element (name : QualifiedName) (attributes : List Attribute)
  | text (content : String)
  | comment (content : String)
  | doctype (name publicId systemId : String)
  | instruction (target data : String)
  deriving DecidableEq

/-- The kind of a payload. -/
def Payload.kind : Payload → Kind
  | .document => .document
  | .fragment => .fragment
  | .element .. => .element
  | .text .. => .text
  | .comment .. => .comment
  | .doctype .. => .doctype
  | .instruction .. => .instruction

/-- A node with its links. -/
structure Node where
  payload : Payload
  parent : Link := none
  firstChild : Link := none
  lastChild : Link := none
  prevSibling : Link := none
  nextSibling : Link := none
  deriving DecidableEq

/-- The kind of a node. -/
def Node.kind (node : Node) : Kind := node.payload.kind

end HtmlTemplate
