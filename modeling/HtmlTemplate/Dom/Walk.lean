import HtmlTemplate.Ascii
import HtmlTemplate.Dom.Tree

/-!
# Walking a document

`Dom.children` follows the sibling links of a node, and `Dom.descendants` walks a subtree in
document order with a stack of nodes that are still to be visited. Both end on every store: a chain
of siblings is cut after as many links as there are nodes and one more, since a longer one would
meet a node twice, and each node on the stack carries the number of levels that may lie below it.
-/

namespace HtmlTemplate.Dom

/-- The nodes met from `link` along the sibling links, at most `limit` of them. A link that names no
node ends the chain and is itself part of it. -/
def chain (dom : Dom) : Nat → Link → List NodeId
  | 0, _ => []
  | _, none => []
  | limit + 1, some id => id :: chain dom limit (dom.nextSibling (some id))

/-- The children of a node in order. -/
def children (dom : Dom) (link : Link) : List NodeId :=
  dom.chain (dom.size + 1) (dom.firstChild link)

/-- A chain is no longer than its limit. -/
theorem length_chain_le (dom : Dom) (limit : Nat) (link : Link) :
    (dom.chain limit link).length ≤ limit := by
  induction limit generalizing link with
  | zero => simp [chain]
  | succ limit ih =>
    cases link with
    | none => simp [chain]
    | some id => simpa [chain] using ih _

/-- A node has at most one child more than there are nodes, even where the links are in disorder. -/
theorem length_children_le (dom : Dom) (link : Link) :
    (dom.children link).length ≤ dom.size + 1 :=
  dom.length_chain_le _ _

/-- A node that is still to be visited, and how many levels of descendants are visited with it. -/
structure Pending where
  id : NodeId
  levels : Nat

/-- How many visits a pending node may cause at most. -/
def Pending.weight (dom : Dom) (pending : Pending) : Nat :=
  Nat.pow (dom.size + 2) pending.levels

/-- How many visits a stack may cause at most. -/
def Pending.total (dom : Dom) : List Pending → Nat
  | [] => 0
  | pending :: stack => pending.weight dom + total dom stack

/-- The children of a pending node, pending themselves. -/
def Pending.below (dom : Dom) (pending : Pending) : List Pending :=
  match pending.levels with
  | 0 => []
  | levels + 1 => (dom.children (some pending.id)).map ({ id := ·, levels })

/-- The weights of two lists add up. -/
theorem Pending.total_append (dom : Dom) (front back : List Pending) :
    total dom (front ++ back) = total dom front + total dom back := by
  induction front with
  | nil => exact (Nat.zero_add _).symm
  | cons pending front ih => rw [List.cons_append, total, total, ih, Nat.add_assoc]

/-- Nodes with the same levels to go weigh the same. -/
theorem Pending.total_map (dom : Dom) (levels : Nat) (ids : List NodeId) :
    total dom (ids.map ({ id := ·, levels })) = ids.length * Nat.pow (dom.size + 2) levels := by
  induction ids with
  | nil => exact (Nat.zero_mul _).symm
  | cons id ids ih =>
    rw [List.map_cons, total, ih, weight, List.length_cons, Nat.succ_mul, Nat.add_comm]

/-- What is below a node weighs less than the node. -/
theorem Pending.total_below_lt (dom : Dom) (pending : Pending) :
    total dom (pending.below dom) < pending.weight dom := by
  obtain ⟨id, levels⟩ := pending
  cases levels with
  | zero => exact Nat.one_pos
  | succ levels =>
    have hpos : 0 < Nat.pow (dom.size + 2) levels := Nat.pow_pos (Nat.succ_pos _)
    have hlength : (dom.children (some id)).length < dom.size + 2 :=
      Nat.lt_succ_of_le (dom.length_children_le (some id))
    rw [below, total_map, weight]
    show _ < Nat.pow (dom.size + 2) levels * (dom.size + 2)
    rw [Nat.mul_comm _ (dom.size + 2)]
    exact Nat.mul_lt_mul_of_pos_right hlength hpos

/-- Visits the nodes of a stack in order, each followed by its descendants. The nodes visited before
are given in reverse. -/
def walk (dom : Dom) (visited : List NodeId) : List Pending → List NodeId
  | [] => visited.reverse
  | pending :: stack => walk dom (pending.id :: visited) (pending.below dom ++ stack)
termination_by stack => Pending.total dom stack
decreasing_by
  rw [Pending.total_append, Pending.total]
  exact Nat.add_lt_add_right (pending.total_below_lt dom) _

/-- A node and everything below it in document order; nothing when the link names no node. -/
def descendants (dom : Dom) (root : Link) : List NodeId :=
  match root with
  | none => []
  | some id => if id < dom.size then dom.walk [] [{ id, levels := dom.size }] else []

/-- The first node of the document, in document order, that satisfies a condition. -/
def find? (dom : Dom) (condition : Node → Bool) : Option NodeId :=
  (dom.descendants (some document)).find? fun id => (dom.get? (some id)).any condition

/-- Whether a node is an element whose local name is `tag` up to the case of ASCII letters. -/
def isTagged (tag : String) (node : Node) : Bool :=
  match node.payload with
  | .element name _ => Ascii.sameLetters name.localName tag
  | _ => false

/-- The first element of the document whose local name is `tag` up to the case of letters. -/
def findTag? (dom : Dom) (tag : String) : Option NodeId :=
  dom.find? (isTagged tag)

/-- The text of all text nodes at or below a node, in document order. -/
def textContent (dom : Dom) (root : Link) : String :=
  (dom.descendants root).foldl (fun text id => text ++ (dom.text? (some id)).getD "") ""

end HtmlTemplate.Dom
