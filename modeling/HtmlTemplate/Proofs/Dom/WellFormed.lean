import HtmlTemplate.Dom.Walk
import HtmlTemplate.Proofs.Dom.Forest
import Mathlib.Data.List.Perm.Subperm

/-!
# Well-formed documents

`Dom.WellFormed` says in terms of links what a document has to be: no link leads nowhere, the links
between siblings run through the children of a node and back, and no node is its own descendant.
`Dom.Stores` says the same from the other side: the nodes are those that an ordered forest asks for.
`WellFormed.stores` and `Stores.wellFormed` turn one into the other, so that an operation need only
be shown to store the forest that the list operation gives. `Stores.forest_eq` shows that a document
stores one forest only, the one that `Dom.forest` reads off with `Dom.children`.
-/

namespace HtmlTemplate

/-- The five links of a node. -/
def Node.links (node : Node) : List Link :=
  [node.parent, node.firstChild, node.lastChild, node.prevSibling, node.nextSibling]

namespace Dom

/-- The previous sibling of a node. -/
def prevSibling (dom : Dom) (link : Link) : Link :=
  (dom.get? link).bind (·.prevSibling)

/-- The parent of a node, by its number. -/
def parentOf (dom : Dom) (id : NodeId) : Link :=
  dom.parent (some id)

/-- The links of a document make it an ordered forest. -/
structure WellFormed (dom : Dom) : Prop where
  /-- Every link names a node that exists. -/
  links_exist : ∀ node ∈ dom.nodes, ∀ link ∈ node.links, ∀ target ∈ link, target < dom.size
  /-- From the first child on, the next siblings are the nodes whose parent is `id`, each once; from
  the last child on, the previous siblings are the same nodes in reverse. -/
  siblings : ∀ id < dom.size, ∃ ids : List NodeId, ids.Nodup ∧
    Follows (fun child => dom.nextSibling (some child)) (dom.firstChild (some id)) ids ∧
    Follows (fun child => dom.prevSibling (some child)) (dom.lastChild (some id)) ids.reverse ∧
    ∀ child, child ∈ ids ↔ dom.parent (some child) = some id
  /-- A node without a parent has no siblings. -/
  root_alone : ∀ id < dom.size, dom.parent (some id) = none →
    dom.prevSibling (some id) = none ∧ dom.nextSibling (some id) = none
  /-- No node is its own descendant. -/
  acyclic : Acyclic dom.parentOf

/-- A document without its links. -/
def forest (dom : Dom) : Forest where
  payloads := dom.nodes.toList.map (·.payload)
  parent := dom.parentOf
  children id := dom.children (some id)

/-- The nodes of a document are those that a forest asks for. -/
structure Stores (dom : Dom) (forest : Forest) : Prop where
  proper : forest.Proper
  get? : ∀ id, dom.get? (some id) = forest.node id

variable {dom : Dom} {forest : Forest} {id : NodeId}

/-! ## Looking up nodes -/

/-- The nodes that are not there are those from the size on. -/
theorem get?_eq_none_iff : dom.get? (some id) = none ↔ dom.size ≤ id := by
  simp [size]

/-- The nodes without a kind are those that are not there. -/
theorem kind?_eq_none_iff : dom.kind? (some id) = none ↔ dom.size ≤ id := by
  rw [kind?, Option.map_eq_none_iff, get?_eq_none_iff]

/-- A node below the size is there. -/
theorem exists_get?_of_lt (h : id < dom.size) : ∃ node, dom.get? (some id) = some node :=
  Option.ne_none_iff_exists'.mp (get?_eq_none_iff.not.mpr (Nat.not_le.mpr h))

/-- A node that is not there has no parent. -/
theorem parent_eq_none (h : dom.size ≤ id) : dom.parent (some id) = none := by
  rw [parent, get?_eq_none_iff.mpr h, Option.bind_none]

/-- A node that is there is below the size. -/
theorem lt_of_get? {node : Node} (h : dom.get? (some id) = some node) : id < dom.size := by
  by_contra hid
  rw [get?_eq_none_iff.mpr (Nat.not_lt.mp hid)] at h
  cases h

/-- A node with a payload is below the size. -/
theorem lt_of_payload? {payload : Payload} (h : dom.payload? (some id) = some payload) :
    id < dom.size := by
  obtain ⟨node, hnode, -⟩ := Option.map_eq_some_iff.mp h
  exact lt_of_get? hnode

/-- Documents with the same nodes are the same. -/
theorem eq_of_get? {other : Dom} (h : ∀ id, dom.get? (some id) = other.get? (some id)) :
    dom = other :=
  congrArg Dom.mk (Array.ext_getElem? h)

/-- A node that has a link exists. -/
theorem lt_of_link {link : Node → Link} {target : NodeId}
    (h : (dom.get? (some id)).bind link = some target) : id < dom.size := by
  obtain ⟨node, hnode, -⟩ := Option.bind_eq_some_iff.mp h
  exact lt_of_get? hnode

/-- A node that stands under another exists. -/
theorem lt_of_under {above : NodeId} (h : dom.parentOf id = some above) : id < dom.size :=
  lt_of_link h

/-- Below a node that exists there are only nodes that exist. -/
theorem lt_of_within {root : NodeId} (hroot : root < dom.size)
    (h : Within dom.parentOf id root) : id < dom.size := by
  rcases Relation.ReflTransGen.cases_head h with rfl | ⟨above, habove, -⟩
  · exact hroot
  · exact lt_of_under habove

/-- The forest of a document has its payloads. -/
theorem payloads_forest (dom : Dom) (id : NodeId) :
    dom.forest.payloads[id]? = dom.payload? (some id) := by
  simp [Dom.forest, payload?]

/-- A node is its payload and its five links. -/
theorem get?_eq_map_payload (dom : Dom) (id : NodeId) :
    dom.get? (some id) = (dom.payload? (some id)).map fun payload =>
      { payload
        parent := dom.parentOf id
        firstChild := dom.firstChild (some id)
        lastChild := dom.lastChild (some id)
        prevSibling := dom.prevSibling (some id)
        nextSibling := dom.nextSibling (some id) } := by
  cases h : dom.get? (some id) with
  | none => rw [payload?, h, Option.map_none, Option.map_none]
  | some node => simp [payload?, h, parentOf, parent, firstChild, lastChild, prevSibling,
      nextSibling]

/-! ## Chains of siblings -/

/-- Sibling links that end are followed to their end. -/
theorem chain_eq_of_follows {limit : Nat} {link : Link} {ids : List NodeId}
    (h : Follows (fun child => dom.nextSibling (some child)) link ids) (hle : ids.length ≤ limit) :
    dom.chain limit link = ids := by
  induction ids generalizing limit link with
  | nil =>
      cases h
      cases limit <;> rfl
  | cons head tail ih =>
      obtain ⟨rfl, htail⟩ := h
      cases limit with
      | zero => simp at hle
      | succ limit =>
          rw [chain, ih htail (by simpa using hle)]

/-- A list of existing nodes without repetition is no longer than the document. -/
theorem length_le_size {ids : List NodeId} (hnodup : ids.Nodup) (h : ∀ id ∈ ids, id < dom.size) :
    ids.length ≤ dom.size := by
  have hsub : ids ⊆ List.range dom.size := fun id hid => List.mem_range.mpr (h id hid)
  simpa using (hnodup.subperm hsub).length_le

/-- What `Dom.children` finds is the chain that well-formedness speaks of. -/
theorem WellFormed.follows_children (h : dom.WellFormed) (hid : id < dom.size) :
    (dom.children (some id)).Nodup ∧
      Follows (fun child => dom.nextSibling (some child)) (dom.firstChild (some id))
        (dom.children (some id)) ∧
      Follows (fun child => dom.prevSibling (some child)) (dom.lastChild (some id))
        (dom.children (some id)).reverse ∧
      ∀ child, child ∈ dom.children (some id) ↔ dom.parentOf child = some id := by
  obtain ⟨ids, hnodup, hnext, hprev, hmem⟩ := h.siblings id hid
  have hle : ids.length ≤ dom.size :=
    length_le_size hnodup fun child hchild => lt_of_under ((hmem child).mp hchild)
  have hchildren : dom.children (some id) = ids :=
    chain_eq_of_follows hnext (Nat.le_succ_of_le hle)
  rw [hchildren]
  exact ⟨hnodup, hnext, hprev, hmem⟩

/-- What a link leads to exists. -/
theorem WellFormed.target_lt (h : dom.WellFormed) {link : Node → Link} {target : NodeId}
    (hlink : ∀ node : Node, link node ∈ node.links)
    (htarget : (dom.get? (some id)).bind link = some target) : target < dom.size := by
  obtain ⟨node, hnode, htarget⟩ := Option.bind_eq_some_iff.mp htarget
  rw [get?_some] at hnode
  exact h.links_exist node (Array.mem_of_getElem? hnode) (link node) (hlink node) target htarget

/-- A parent is there. -/
theorem WellFormed.parent_lt (h : dom.WellFormed) {above : NodeId}
    (hparent : dom.parentOf id = some above) : above < dom.size :=
  h.target_lt (fun node => by simp [Node.links]) hparent

/-- A node that is not there has no children. -/
theorem children_eq_nil (h : dom.size ≤ id) : dom.children (some id) = [] := by
  rw [children, firstChild, get?_eq_none_iff.mpr h]
  rfl

/-- The children of a node are the nodes whose parent it is. -/
theorem WellFormed.mem_children (h : dom.WellFormed) {child : NodeId} :
    child ∈ dom.children (some id) ↔ dom.parentOf child = some id := by
  by_cases hid : id < dom.size
  · exact (h.follows_children hid).2.2.2 child
  · rw [children_eq_nil (Nat.not_lt.mp hid)]
    exact ⟨fun hmem => absurd hmem (List.not_mem_nil),
      fun hparent => absurd (h.parent_lt hparent) hid⟩

/-- No child is listed twice. -/
theorem WellFormed.nodup_children (h : dom.WellFormed) (id : NodeId) :
    (dom.children (some id)).Nodup := by
  by_cases hid : id < dom.size
  · exact (h.follows_children hid).1
  · rw [children_eq_nil (Nat.not_lt.mp hid)]
    exact List.nodup_nil

/-! ## Documents that store a forest -/

/-- The forest of a document has as many nodes. -/
@[simp] theorem size_forest (dom : Dom) : dom.forest.size = dom.size := by
  simp [Dom.forest, Forest.size, size]

/-- The forest of a well-formed document is proper. -/
theorem WellFormed.proper (h : dom.WellFormed) : dom.forest.Proper where
  nodup := h.nodup_children
  mem_children := h.mem_children
  child_lt hparent := by
    rw [size_forest]
    exact lt_of_under hparent
  parent_lt hparent := by
    rw [size_forest]
    exact h.parent_lt hparent
  acyclic := h.acyclic

/-- The forest has the next siblings that the links name. -/
theorem WellFormed.next_forest (h : dom.WellFormed) (id : NodeId) :
    dom.forest.next id = dom.nextSibling (some id) := by
  cases hparent : dom.parentOf id with
  | none =>
      rw [Forest.next_of_root hparent]
      by_cases hid : id < dom.size
      · exact (h.root_alone id hid hparent).2.symm
      · rw [nextSibling, get?_eq_none_iff.mpr (Nat.not_lt.mp hid), Option.bind_none]
  | some above =>
      obtain ⟨hnodup, hnext, -, hmem⟩ := h.follows_children (h.parent_lt hparent)
      rw [Forest.next_of_under hparent]
      exact (((follows_iff hnodup).mp hnext).2 id ((hmem id).mpr hparent)).symm

/-- The forest has the previous siblings that the links name. -/
theorem WellFormed.prev_forest (h : dom.WellFormed) (id : NodeId) :
    dom.forest.prev id = dom.prevSibling (some id) := by
  cases hparent : dom.parentOf id with
  | none =>
      rw [Forest.prev_of_root hparent]
      by_cases hid : id < dom.size
      · exact (h.root_alone id hid hparent).1.symm
      · rw [prevSibling, get?_eq_none_iff.mpr (Nat.not_lt.mp hid), Option.bind_none]
  | some above =>
      obtain ⟨hnodup, -, hprev, hmem⟩ := h.follows_children (h.parent_lt hparent)
      have hmem := List.mem_reverse.mpr ((hmem id).mpr hparent)
      rw [Forest.prev_of_under hparent]
      exact (((follows_iff (List.nodup_reverse.mpr hnodup)).mp hprev).2 id hmem).symm

/-- A well-formed document stores the forest that is read off it. -/
theorem WellFormed.stores (h : dom.WellFormed) : dom.Stores dom.forest where
  proper := h.proper
  get? id := by
    rw [get?_eq_map_payload, Forest.node, payloads_forest]
    by_cases hid : id < dom.size
    · obtain ⟨hnodup, hnext, hprev, -⟩ := h.follows_children hid
      have hfirst := ((follows_iff hnodup).mp hnext).1
      have hlast := ((follows_iff (List.nodup_reverse.mpr hnodup)).mp hprev).1
      rw [List.head?_reverse] at hlast
      rw [h.next_forest, h.prev_forest, hfirst, hlast]
      rfl
    · rw [payload?, get?_eq_none_iff.mpr (Nat.not_lt.mp hid)]
      rfl

/-- A document that stores a forest has as many nodes. -/
theorem Stores.size_eq (h : dom.Stores forest) : dom.size = forest.size := by
  have hnone : ∀ id, dom.size ≤ id ↔ forest.size ≤ id := fun id => by
    rw [← get?_eq_none_iff, h.get?]
    simp [Forest.node, Forest.size]
  exact Nat.le_antisymm ((hnone _).mpr (Nat.le_refl _)) ((hnone _).mp (Nat.le_refl _))

/-- A document that stores a forest has its payloads. -/
theorem Stores.payload_eq (h : dom.Stores forest) (id : NodeId) :
    dom.payload? (some id) = forest.payloads[id]? := by
  rw [payload?, h.get?, Forest.node, Option.map_map]
  exact congrFun Option.map_id _

/-- The links of a document that stores a forest are those of the forest; nodes that do not exist
have none on either side. -/
theorem Stores.links_eq (h : dom.Stores forest) (id : NodeId) :
    dom.parentOf id = forest.parent id ∧
      dom.firstChild (some id) = (forest.children id).head? ∧
      dom.lastChild (some id) = (forest.children id).getLast? ∧
      dom.prevSibling (some id) = forest.prev id ∧
      dom.nextSibling (some id) = forest.next id := by
  simp only [parentOf, parent, firstChild, lastChild, prevSibling, nextSibling, h.get?, Forest.node]
  cases hpayload : forest.payloads[id]? with
  | some payload => simp
  | none =>
      have hid : forest.size ≤ id := List.getElem?_eq_none_iff.mp hpayload
      simp [h.proper.parent_eq_none hid, h.proper.children_eq_nil hid, Forest.prev, Forest.next]

/-- A document that stores a forest has its parents. -/
theorem Stores.parentOf_eq (h : dom.Stores forest) : dom.parentOf = forest.parent :=
  funext fun id => (h.links_eq id).1

/-- In a document that stores a forest, the sibling links run through its lists of children. -/
theorem Stores.follows (h : dom.Stores forest) (id : NodeId) :
    Follows (fun child => dom.nextSibling (some child)) (dom.firstChild (some id))
        (forest.children id) ∧
      Follows (fun child => dom.prevSibling (some child)) (dom.lastChild (some id))
        (forest.children id).reverse := by
  have hnodup := h.proper.nodup id
  rw [follows_iff hnodup, follows_iff (List.nodup_reverse.mpr hnodup)]
  refine ⟨⟨(h.links_eq id).2.1, fun child hchild => ?_⟩, ?_, fun child hchild => ?_⟩
  · rw [(h.links_eq child).2.2.2.2, Forest.next_of_under (h.proper.mem_children.mp hchild)]
  · rw [(h.links_eq id).2.2.1, List.head?_reverse]
  · rw [(h.links_eq child).2.2.2.1,
      Forest.prev_of_under (h.proper.mem_children.mp (List.mem_reverse.mp hchild))]
    rfl

/-- Whatever proper forest a document stores, it is well-formed. -/
theorem Stores.wellFormed (h : dom.Stores forest) : dom.WellFormed where
  links_exist := by
    intro node hnode link hlink target htarget
    obtain ⟨id, hid⟩ := Array.mem_iff_getElem?.mp hnode
    rw [← get?_some, h.get?] at hid
    obtain ⟨payload, -, rfl⟩ := Option.map_eq_some_iff.mp hid
    rw [h.size_eq]
    have hbelow : ∀ {child}, child ∈ forest.children id → child < forest.size :=
      fun hchild => h.proper.child_lt (h.proper.mem_children.mp hchild)
    simp only [Node.links, List.mem_cons, List.not_mem_nil, or_false] at hlink
    -- A parent or a child is one of the forest, and a sibling is a child of the same parent.
    rcases hlink with rfl | rfl | rfl | rfl | rfl
    · exact h.proper.parent_lt htarget
    · exact hbelow (List.mem_of_mem_head? htarget)
    · exact hbelow (List.mem_of_mem_getLast? htarget)
    · obtain ⟨above, habove, hprev⟩ := Option.bind_eq_some_iff.mp htarget
      exact h.proper.child_lt (h.proper.mem_children.mp (Siblings.mem_of_prev? hprev))
    · obtain ⟨above, habove, hnext⟩ := Option.bind_eq_some_iff.mp htarget
      exact h.proper.child_lt (h.proper.mem_children.mp (Siblings.mem_of_next? hnext))
  siblings id _ := by
    refine ⟨forest.children id, h.proper.nodup id, (h.follows id).1, (h.follows id).2, ?_⟩
    intro child
    rw [h.proper.mem_children, ← h.parentOf_eq]
    rfl
  root_alone id _ hroot := by
    have hparent : forest.parent id = none := (h.links_eq id).1.symm.trans hroot
    rw [(h.links_eq id).2.2.2.1, (h.links_eq id).2.2.2.2]
    exact ⟨Forest.prev_of_root hparent, Forest.next_of_root hparent⟩
  acyclic := by
    rw [h.parentOf_eq]
    exact h.proper.acyclic

/-- No node is its own sibling. -/
theorem WellFormed.nextSibling_ne_self (h : dom.WellFormed) (id : NodeId) :
    dom.nextSibling (some id) ≠ some id := by
  rw [← h.next_forest]
  exact h.proper.next_ne_self id

/-- The links between siblings lead there and back. -/
theorem WellFormed.nextSibling_eq_some_iff (h : dom.WellFormed) {behind : NodeId} :
    dom.nextSibling (some id) = some behind ↔ dom.prevSibling (some behind) = some id := by
  rw [← h.next_forest, ← h.prev_forest]
  exact h.proper.next_eq_some_iff

/-- The first child of a node is its child without a previous sibling. -/
theorem WellFormed.firstChild_eq_some_iff (h : dom.WellFormed) {above : NodeId} :
    dom.firstChild (some above) = some id ↔
      dom.parentOf id = some above ∧ dom.prevSibling (some id) = none := by
  rw [(h.stores.links_eq above).2.1, ← h.prev_forest]
  exact h.proper.head?_children_eq_some_iff

/-- A node has a first child when it has a last one. -/
theorem WellFormed.firstChild_eq_none_iff (h : dom.WellFormed) :
    dom.firstChild (some id) = none ↔ dom.lastChild (some id) = none := by
  rw [(h.stores.links_eq id).2.1, (h.stores.links_eq id).2.2.1, List.head?_eq_none_iff,
    List.getLast?_eq_none_iff]

/-- Where whatever leads to a node in one document leads to it in another too, the node has the same
sibling before it there, and the same parent if it is a first child. -/
theorem WellFormed.place_of_led_to {after : Dom} (h : dom.WellFormed) (hafter : after.WellFormed)
    {above : NodeId} (habove : dom.parentOf id = some above)
    (hnext : ∀ before, dom.nextSibling (some before) = some id →
      after.nextSibling (some before) = some id)
    (hfirst : dom.firstChild (some above) = some id → after.firstChild (some above) = some id) :
    after.prevSibling (some id) = dom.prevSibling (some id) ∧
      (dom.prevSibling (some id) = none → after.parentOf id = some above) := by
  cases hbefore : dom.prevSibling (some id) with
  | some before =>
      have hforth := hnext before (h.nextSibling_eq_some_iff.mpr hbefore)
      exact ⟨hafter.nextSibling_eq_some_iff.mp hforth, nofun⟩
  | none =>
      have hthere := hfirst (h.firstChild_eq_some_iff.mpr ⟨habove, hbefore⟩)
      obtain ⟨hparent, hprev⟩ := hafter.firstChild_eq_some_iff.mp hthere
      exact ⟨hprev, fun _ => hparent⟩

/-- No two documents store the same forest. -/
theorem Stores.unique {other : Dom} (h : dom.Stores forest) (hother : other.Stores forest) :
    other = dom :=
  eq_of_get? fun id => (hother.get? id).trans (h.get? id).symm

/-- A document stores no other forest than the one that is read off it. -/
theorem Stores.forest_eq (h : dom.Stores forest) : dom.forest = forest := by
  have hchildren : ∀ id, dom.children (some id) = forest.children id := by
    intro id
    have hle : (forest.children id).length ≤ dom.size := by
      refine length_le_size (h.proper.nodup id) fun child hchild => ?_
      rw [h.size_eq]
      exact h.proper.child_lt (h.proper.mem_children.mp hchild)
    exact chain_eq_of_follows (h.follows id).1 (Nat.le_succ_of_le hle)
  refine Forest.ext (List.ext_getElem? fun id => ?_) h.parentOf_eq (funext hchildren)
  rw [payloads_forest, h.payload_eq]

end Dom

end HtmlTemplate
