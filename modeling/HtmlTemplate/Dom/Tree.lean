import HtmlTemplate.Dom.Node

/-!
# Documents as linked nodes

A `Dom` is a store of nodes, of which the first is the document itself. The store only grows:
`Dom.create` adds a node without links, and `Dom.append`, `Dom.insertBefore`, `Dom.detach` and
`Dom.appendText` change links. Each of these is a sequence of updates at given links. An update at
a link that names no node changes nothing, so every operation is defined for every argument.
-/

namespace HtmlTemplate

/-- A store of nodes; node `0` is the document. -/
structure Dom where
  nodes : Array Node
  deriving DecidableEq

namespace Dom

/-- The store that holds a document and nothing else. -/
def empty : Dom := { nodes := #[{ payload := .document }] }

/-- The document. -/
def document : NodeId := 0

/-- The number of nodes, the document included. -/
def size (dom : Dom) : Nat := dom.nodes.size

/-- Whether the store holds nothing but the document. -/
def isEmpty (dom : Dom) : Bool := dom.size ≤ 1

/-- The node that a link names, if there is one. -/
def get? (dom : Dom) (link : Link) : Option Node :=
  link.bind fun id => dom.nodes[id]?

/-- What the node that a link names says. -/
def payload? (dom : Dom) (link : Link) : Option Payload :=
  (dom.get? link).map (·.payload)

/-- Changes the node that a link names, if there is one. -/
def update (dom : Dom) (link : Link) (change : Node → Node) : Dom :=
  match link with
  | none => dom
  | some id => { nodes := dom.nodes.modify id change }

/-- Adds a node without links, and gives its number. -/
def create (dom : Dom) (payload : Payload) : Dom × NodeId :=
  let id := dom.size
  ({ nodes := dom.nodes.push { payload } }, id)

/-- The first child of a node. -/
def firstChild (dom : Dom) (link : Link) : Link :=
  (dom.get? link).bind (·.firstChild)

/-- The last child of a node. -/
def lastChild (dom : Dom) (link : Link) : Link :=
  (dom.get? link).bind (·.lastChild)

/-- The next sibling of a node. -/
def nextSibling (dom : Dom) (link : Link) : Link :=
  (dom.get? link).bind (·.nextSibling)

/-- The parent of a node. -/
def parent (dom : Dom) (link : Link) : Link :=
  (dom.get? link).bind (·.parent)

/-- Makes `child` the last child of `parent`. -/
def append (dom : Dom) (parent child : Link) : Dom :=
  let last := dom.lastChild parent
  let placed := dom.update child fun node =>
    { node with parent := parent, prevSibling := last, nextSibling := none }
  let chained := placed.update last fun node => { node with nextSibling := child }
  chained.update parent fun node =>
    { node with firstChild := node.firstChild.or child, lastChild := child }

/-- Puts `node` right before `sibling`, under the same parent. -/
def insertBefore (dom : Dom) (sibling node : Link) : Dom :=
  match dom.get? sibling with
  | none => dom
  | some place =>
    let placed := dom.update node fun n =>
      { n with parent := place.parent, prevSibling := place.prevSibling, nextSibling := sibling }
    let chained := placed.update sibling fun n => { n with prevSibling := node }
    match place.prevSibling with
    | some _ => chained.update place.prevSibling fun n => { n with nextSibling := node }
    | none => chained.update place.parent fun n => { n with firstChild := node }

/-- Takes a node, with everything below it, out of its parent and from between its siblings. -/
def detach (dom : Dom) (link : Link) : Dom :=
  match dom.get? link with
  | none => dom
  | some place =>
    let before := match place.prevSibling with
      | some _ => dom.update place.prevSibling fun n => { n with nextSibling := place.nextSibling }
      | none => dom.update place.parent fun n => { n with firstChild := place.nextSibling }
    let after := match place.nextSibling with
      | some _ =>
        before.update place.nextSibling fun n => { n with prevSibling := place.prevSibling }
      | none => before.update place.parent fun n => { n with lastChild := place.prevSibling }
    after.update link fun n => { n with parent := none, prevSibling := none, nextSibling := none }

/-- Adds text at the end of `parent`: to its last child if that is a text, else as a new node. -/
def appendText (dom : Dom) (parent : Link) (text : String) : Dom :=
  let last := dom.lastChild parent
  match dom.payload? last with
  | some (.text old) => dom.update last fun node => { node with payload := .text (old ++ text) }
  | _ =>
    let (grown, id) := dom.create (.text text)
    grown.append parent (some id)

/-- The kind of the node that a link names. -/
def kind? (dom : Dom) (link : Link) : Option Kind :=
  (dom.get? link).map (·.kind)

/-- The attributes of an element in the order of the markup; other nodes have none. -/
def attributes (dom : Dom) (link : Link) : List Attribute :=
  match dom.payload? link with
  | some (.element _ attributes) => attributes
  | _ => []

/-- The name of an element. -/
def elementName? (dom : Dom) (link : Link) : Option QualifiedName :=
  match dom.payload? link with
  | some (.element name _) => some name
  | _ => none

/-- The content of a text node. -/
def text? (dom : Dom) (link : Link) : Option String :=
  match dom.payload? link with
  | some (.text content) => some content
  | _ => none

@[simp] theorem get?_none (dom : Dom) : dom.get? none = none := rfl

@[simp] theorem get?_some (dom : Dom) (id : NodeId) : dom.get? (some id) = dom.nodes[id]? := rfl

@[simp] theorem update_none (dom : Dom) (change : Node → Node) : dom.update none change = dom := rfl

/-- An update makes no node and removes none. -/
@[simp] theorem size_update (dom : Dom) (link : Link) (change : Node → Node) :
    (dom.update link change).size = dom.size := by
  cases link <;> simp [update, size]

/-- The kind of a node is that of what it says. -/
theorem kind?_eq (dom : Dom) (link : Link) :
    dom.kind? link = (dom.payload? link).map Payload.kind := by
  rw [kind?, payload?, Option.map_map]
  rfl

/-- An update is seen at its own link and nowhere else. -/
theorem get?_update (dom : Dom) (link other : Link) (change : Node → Node) :
    (dom.update link change).get? other =
      if link = other then (dom.get? other).map change else dom.get? other := by
  cases link with
  | none => cases other <;> simp
  | some id =>
    cases other with
    | none => simp
    | some other => simp [update, Array.getElem?_modify]

/-- A created node is seen at its own number, and every other node stays as it was. -/
theorem get?_create (dom : Dom) (payload : Payload) (link : Link) :
    (dom.create payload).1.get? link =
      if link = some dom.size then some { payload } else dom.get? link := by
  cases link with
  | none => simp
  | some id => simp [create, size, Array.getElem?_push]

end Dom

end HtmlTemplate
