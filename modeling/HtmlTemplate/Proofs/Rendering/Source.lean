import HtmlTemplate.Proofs.Dom.Descendants
import HtmlTemplate.Proofs.Rendering.Pieces

/-!
# Renderings as printed trees

A `Source` is a piece of the template language as a tree, and `Source.print` is its text.
`Dom.source?` gives the tree of a node in a document.
-/

namespace HtmlTemplate

/-- A node in the template language. Attributes are pairs of the expressions for the name and the
value. -/
inductive Source where
  /-- An element without content. -/
  | void (tag : String) (attributes : List (String × String))
  /-- An element whose content is one string. -/
  | flat (tag : String) (attributes : List (String × String)) (content : String)
  /-- An element whose content is a list of nodes. -/
  | list (tag : String) (attributes : List (String × String)) (items : List Source)
  | text (content : String)
  | comment (content : String)

namespace Source

/-- The nodes that are the content of an element. -/
def items : Source → List Source
  | .list _ _ items => items
  | .void .. | .flat .. | .text _ | .comment _ => []

/-- The text of an attribute. -/
def printAttribute (attr : String × String) : List Char :=
  attr.1.toList ++ ' ' :: attr.2.toList ++ [';', ' ']

/-- The text of an element up to its content. -/
def printHeader (tag : String) (attributes : List (String × String)) : List Char :=
  tag.toList ++ ' ' :: '[' :: attributes.flatMap printAttribute ++ [']', ' ']

/-- The text of a node that is a keyword and a string. -/
def printText (keyword content : String) : List Char :=
  keyword.toList ++ ' ' :: (Literal.ofText content).toList

mutual
/-- The text of a tree. -/
def print : Source → List Char
  | .void tag attributes => printHeader tag attributes
  | .flat tag attributes content =>
      printHeader tag attributes ++ (Literal.ofText content).toList
  | .list tag attributes items => printHeader tag attributes ++ '[' :: printItems items ++ [']']
  | .text content => printText "txt" content
  | .comment content => printText "comment" content

/-- The text of a list of nodes, without the brackets around it. -/
def printItems : List Source → List Char
  | [] => []
  | item :: items => '\n' :: item.print ++ ';' :: printItems items
end

/-- The text of one item of a list. -/
def printItem (item : Source) : List Char :=
  '\n' :: item.print ++ [';']

/-- A list of nodes is printed node by node. -/
theorem printItems_eq (items : List Source) : printItems items = items.flatMap printItem := by
  induction items with
  | nil => rfl
  | cons item items ih => simp [printItems, printItem, ih]

end Source

namespace Dom

/-- The expressions for the name and the value of an attribute. -/
def attributeSource (catalog : Catalog) (attr : Attribute) : String × String :=
  (Constructor.ofName catalog attr.qualifiedName,
    Literal.ofValue catalog (some attr.value) (some attr.qualifiedName))

/-- The tree of a node that says `payload`, when `childSource` gives the trees of its children.
Children without a tree are left out. -/
def payloadSource (catalog : Catalog) (dom : Dom) (childSource : NodeId → Option Source)
    (id : NodeId) : Payload → Option Source
  | .element name attributes =>
      let tag := Ascii.lower name.localName
      let attributes := attributes.map (attributeSource catalog)
      match catalog.tagKind tag with
      | .void => some (.void tag attributes)
      | .text => some (.flat tag attributes (dom.textContent (some id)))
      | .normal => some (.list tag attributes ((dom.children (some id)).filterMap childSource))
  | .text content => some (.text content)
  | .comment content => some (.comment content)
  | .document | .fragment | .doctype .. | .instruction .. => none

/-- The tree of a node whose descendants reach down less than `levels` levels. -/
def sourceWithin (catalog : Catalog) (dom : Dom) : Nat → NodeId → Option Source
  | 0, _ => none
  | levels + 1, id =>
      (dom.payload? (some id)).bind (dom.payloadSource catalog (sourceWithin catalog dom levels) id)

/-- The tree of a node in the template language, if nodes of its kind have one. -/
def source? (catalog : Catalog) (dom : Dom) (id : NodeId) : Option Source :=
  dom.sourceWithin catalog (dom.size + 1) id

variable {catalog : Catalog} {dom : Dom} {id root : NodeId}

/-! ## The tree of a node -/

/-- Room for more levels than a node has below it does not change its tree. -/
theorem Fits.sourceWithin_eq {levels more : Nat} (h : dom.Fits levels id) (hle : levels ≤ more) :
    dom.sourceWithin catalog more id = dom.sourceWithin catalog levels id := by
  induction levels generalizing more id with
  | zero => exact h.elim
  | succ levels ih =>
      cases more with
      | zero => exact absurd hle (Nat.not_succ_le_zero _)
      | succ more =>
          have hchildren : (dom.children (some id)).filterMap (dom.sourceWithin catalog more) =
              (dom.children (some id)).filterMap (dom.sourceWithin catalog levels) :=
            List.filterMap_congr fun child hchild =>
              ih (h child hchild) (Nat.le_of_succ_le_succ hle)
          rw [sourceWithin, sourceWithin]
          congr 1
          funext payload
          cases payload with
          | element name attributes => rw [payloadSource, payloadSource, hchildren]
          | _ => rfl

/-- The tree of a node has the trees of its children below it. -/
theorem Traversable.source?_eq (h : dom.Traversable) (catalog : Catalog) (id : NodeId) :
    dom.source? catalog id =
      (dom.payload? (some id)).bind (dom.payloadSource catalog (dom.source? catalog) id) := by
  have hchildren : (dom.children (some id)).filterMap (dom.sourceWithin catalog dom.size) =
      (dom.children (some id)).filterMap (dom.source? catalog) :=
    List.filterMap_congr fun child hchild =>
      ((h.fits id child hchild).sourceWithin_eq (Nat.le_succ _)).symm
  rw [source?, sourceWithin]
  congr 1
  funext payload
  cases payload with
  | element name attributes => rw [payloadSource, payloadSource, hchildren]
  | _ => rfl

/-- A node without a form has no tree. -/
theorem sourceWithin_of_formless {kind : Kind} (h : dom.formless? id = some kind) (levels : Nat) :
    dom.sourceWithin catalog levels id = none := by
  obtain ⟨payload, hpayload, -, hform⟩ := exists_payload_of_formless h
  cases levels with
  | zero => rfl
  | succ levels =>
      rw [sourceWithin, hpayload, Option.bind_some]
      cases payload with
      | element | text | comment => cases hform
      | _ => rfl

/-- Any other node of the document has one. -/
theorem exists_sourceWithin (hid : id < dom.size) (h : dom.formless? id = none) (levels : Nat) :
    ∃ tree, dom.sourceWithin catalog (levels + 1) id = some tree := by
  obtain ⟨node, hnode⟩ := exists_get?_of_lt hid
  have hpayload : dom.payload? (some id) = some node.payload := by
    rw [payload?, hnode, Option.map_some]
  rw [formless?, kind?_eq, hpayload, Option.map_some, Option.filter_eq_none_iff] at h
  have hform := h node.payload.kind rfl
  rw [sourceWithin, hpayload, Option.bind_some]
  cases hcase : node.payload with
  | element name attributes =>
      rw [payloadSource]
      cases catalog.tagKind (Ascii.lower name.localName) with
      | void | text | normal => exact ⟨_, rfl⟩
  | text | comment => exact ⟨_, rfl⟩
  | _ =>
      rw [hcase] at hform
      exact absurd rfl hform

/-! ## The content of a rendering -/

/-- The code of an attribute is what its source is printed as. -/
theorem toList_attributeCode (attr : Attribute) :
    (Rendering.attributeCode catalog attr).toList =
      Source.printAttribute (attributeSource catalog attr) := by
  simp [Rendering.attributeCode, Source.printAttribute, attributeSource]

/-- The code of a name with attributes is what their source is printed as. -/
theorem toList_header (tag : String) (attributes : List Attribute) :
    (Rendering.header catalog tag attributes).toList =
      Source.printHeader tag (attributes.map (attributeSource catalog)) := by
  have hall : (String.join (attributes.map (Rendering.attributeCode catalog))).toList =
      (attributes.map (attributeSource catalog)).flatMap Source.printAttribute := by
    induction attributes with
    | nil => rfl
    | cons attr rest ih =>
        rw [List.map_cons, String.join_cons, String.toList_append, ih, toList_attributeCode,
          List.map_cons, List.flatMap_cons]
  simp [Rendering.header, Source.printHeader, hall]

/-- Writing the header of an element adds the text of the header. -/
theorem toList_content_pushHeader (out : Rendering) (tag : String) (attributes : List Attribute) :
    (out.pushHeader catalog tag attributes).content.toList =
      out.content.toList ++
        Source.printHeader tag (attributes.map (attributeSource catalog)) := by
  rw [Rendering.pushHeader_eq, ← toList_header]
  exact String.toList_append

end Dom

end HtmlTemplate
