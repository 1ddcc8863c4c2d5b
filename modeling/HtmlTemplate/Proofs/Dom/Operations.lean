import HtmlTemplate.Proofs.Dom.WellFormed

/-!
# Operations on documents are operations on forests

For each operation on linked nodes there is one lemma that says what becomes of every node
(`get?_append`, `get?_insertBefore`, `get?_detach`); these hold for all arguments. With them each
operation, called as its callers promise, takes a document that stores a forest to one that stores
the forest of the list operation: `Stores.create`, `Stores.append`, `Stores.insertBefore`,
`Stores.detach` and `Stores.appendText`.
-/

namespace HtmlTemplate.Dom

variable {dom : Dom} {forest : Forest} {above child sibling id : NodeId}

/-! ## What becomes of a node -/

/-- An update changes the node it names and no other. -/
theorem get?_update_map (dom : Dom) (link : Link) (change : Node → Node) (id : NodeId) :
    (dom.update link change).get? (some id) =
      (dom.get? (some id)).map fun node => if link = some id then change node else node := by
  rw [get?_update]
  split
  · rfl
  · exact (congrFun Option.map_id _).symm

/-- Appending writes at the child, at the last child so far, and at the parent. -/
theorem get?_append (dom : Dom) (parent child : Link) (id : NodeId) :
    (dom.append parent child).get? (some id) = (dom.get? (some id)).map fun node =>
      { node with
        parent := if child = some id then parent else node.parent
        firstChild := if parent = some id then node.firstChild.or child else node.firstChild
        lastChild := if parent = some id then child else node.lastChild
        prevSibling := if child = some id then dom.lastChild parent else node.prevSibling
        nextSibling :=
          if dom.lastChild parent = some id then child
          else if child = some id then none else node.nextSibling } := by
  simp only [append, get?_update_map, Option.map_map]
  congr 1
  funext node
  simp only [Function.comp_apply]
  split_ifs <;> rfl

/-- Inserting writes at the new node, at the sibling, and at the sibling's previous sibling or,
where there is none, at the parent. -/
theorem get?_insertBefore (dom : Dom) {sibling : Link} {place : Node}
    (h : dom.get? sibling = some place) (new : Link) (id : NodeId) :
    (dom.insertBefore sibling new).get? (some id) = (dom.get? (some id)).map fun node =>
      { node with
        parent := if new = some id then place.parent else node.parent
        firstChild :=
          if place.prevSibling = none ∧ place.parent = some id then new else node.firstChild
        prevSibling :=
          if sibling = some id then new
          else if new = some id then place.prevSibling else node.prevSibling
        nextSibling :=
          if place.prevSibling = some id then new
          else if new = some id then sibling else node.nextSibling } := by
  simp only [insertBefore, h]
  cases hprev : place.prevSibling with
  | none =>
      simp only [get?_update_map, Option.map_map]
      congr 1
      funext node
      simp only [Function.comp_apply, true_and, reduceCtorEq, if_false]
      split_ifs <;> rfl
  | some before =>
      simp only [get?_update_map, Option.map_map]
      congr 1
      funext node
      simp only [Function.comp_apply, reduceCtorEq, false_and, if_false]
      split_ifs <;> rfl

/-- Detaching writes at the node, and on either side at the sibling or, where there is none, at the
parent. -/
theorem get?_detach (dom : Dom) {link : Link} {place : Node} (h : dom.get? link = some place)
    (id : NodeId) :
    (dom.detach link).get? (some id) = (dom.get? (some id)).map fun node =>
      { node with
        parent := if link = some id then none else node.parent
        firstChild :=
          if place.prevSibling = none ∧ place.parent = some id then place.nextSibling
          else node.firstChild
        lastChild :=
          if place.nextSibling = none ∧ place.parent = some id then place.prevSibling
          else node.lastChild
        prevSibling :=
          if link = some id then none
          else if place.nextSibling = some id then place.prevSibling else node.prevSibling
        nextSibling :=
          if link = some id then none
          else if place.prevSibling = some id then place.nextSibling else node.nextSibling } := by
  simp only [detach, h]
  -- Each side writes at a sibling or at the parent, and the sides know nothing of each other.
  cases hprev : place.prevSibling <;> cases hnext : place.nextSibling <;>
    simp only [get?_update_map, Option.map_map]
  all_goals
    congr 1
    funext node
    simp only [Function.comp_apply, true_and, false_and, reduceCtorEq, if_false]
    split_ifs <;> rfl

/-- Taking out a node that is not there changes nothing. -/
theorem detach_of_missing {link : Link} (h : dom.get? link = none) : dom.detach link = dom := by
  rw [detach, h]

/-- Inserting before a node that is not there changes nothing. -/
theorem insertBefore_of_missing {sibling : Link} (h : dom.get? sibling = none) (new : Link) :
    dom.insertBefore sibling new = dom := by
  rw [insertBefore, h]

/-! ## What becomes of sizes, payloads and parents -/

/-- A new node is one node more. -/
@[simp] theorem size_create (dom : Dom) (payload : Payload) :
    (dom.create payload).1.size = dom.size + 1 := by
  simp [create, size]

/-- Appending makes no node, whatever its arguments name. -/
@[simp] theorem size_append (dom : Dom) (parent child : Link) :
    (dom.append parent child).size = dom.size := by
  simp [append]

/-- Inserting makes no node, whatever its arguments name. -/
@[simp] theorem size_insertBefore (dom : Dom) (sibling new : Link) :
    (dom.insertBefore sibling new).size = dom.size := by
  rw [insertBefore]
  split
  · rfl
  · dsimp only
    split <;> simp

/-- Taking a node out of the tree does not remove it from the store. -/
@[simp] theorem size_detach (dom : Dom) (link : Link) : (dom.detach link).size = dom.size := by
  rw [detach]
  split
  · rfl
  · dsimp only
    split <;> split <;> simp

/-- Where every node is made another without a new payload, the payloads are as before. -/
theorem payload?_of_map {after : Dom} {change : Node → Node}
    (hget : after.get? (some id) = (dom.get? (some id)).map change)
    (hchange : ∀ node, (change node).payload = node.payload) :
    after.payload? (some id) = dom.payload? (some id) := by
  rw [payload?, payload?, hget, Option.map_map]
  exact congrArg (Option.map · _) (funext hchange)

/-- Appending keeps every payload. -/
theorem payload?_append (dom : Dom) (parent child : Link) (id : NodeId) :
    (dom.append parent child).payload? (some id) = dom.payload? (some id) :=
  payload?_of_map (get?_append ..) fun _ => rfl

/-- Inserting keeps every payload. -/
theorem payload?_insertBefore (dom : Dom) (sibling new : Link) (id : NodeId) :
    (dom.insertBefore sibling new).payload? (some id) = dom.payload? (some id) := by
  cases hplace : dom.get? sibling with
  | none => rw [insertBefore_of_missing hplace]
  | some place => exact payload?_of_map (get?_insertBefore dom hplace ..) fun _ => rfl

/-- Taking out keeps every payload. -/
theorem payload?_detach (dom : Dom) (link : Link) (id : NodeId) :
    (dom.detach link).payload? (some id) = dom.payload? (some id) := by
  cases hplace : dom.get? link with
  | none => rw [detach_of_missing hplace]
  | some place => exact payload?_of_map (get?_detach dom hplace ..) fun _ => rfl

/-- Nodes that are there say the same when a node is added. -/
theorem payload?_create (dom : Dom) (payload : Payload) (hid : id < dom.size) :
    (dom.create payload).1.payload? (some id) = dom.payload? (some id) := by
  have hne : (some id : Link) ≠ some dom.size := fun heq => Nat.ne_of_lt hid (Option.some.inj heq)
  rw [payload?, get?_create, if_neg hne, payload?]

/-- The new node has the payload that it was made with. -/
theorem payload?_size_create (dom : Dom) (payload : Payload) :
    (dom.create payload).1.payload? (some dom.size) = some payload := by
  rw [payload?, get?_create, if_pos rfl, Option.map_some]

/-- What nodes say when one of them is given something else to say. -/
theorem payload?_setPayload (hid : id < dom.size) (payload : Payload) (other : NodeId) :
    (dom.update (some id) fun node => { node with payload }).payload? (some other) =
      if other = id then some payload else dom.payload? (some other) := by
  rw [payload?, get?_update]
  by_cases hother : other = id
  · subst hother
    obtain ⟨node, hnode⟩ := exists_get?_of_lt hid
    rw [if_pos rfl, if_pos rfl, hnode, Option.map_some, Option.map_some]
  · rw [if_neg fun heq => hother (Option.some.inj heq).symm, if_neg hother, payload?]

/-- A node that is added has no parent. -/
theorem parentOf_create (dom : Dom) (payload : Payload) :
    (dom.create payload).1.parentOf = dom.parentOf := by
  funext id
  rw [parentOf, parent, get?_create]
  split
  · next heq =>
      rw [Option.some.inj heq, parentOf, parent_eq_none (Nat.le_refl _)]
      rfl
  · rfl

/-- The new node has no parent yet. -/
theorem parentOf_size_create (dom : Dom) (payload : Payload) :
    (dom.create payload).1.parentOf dom.size = none :=
  (congrFun (parentOf_create dom payload) _).trans (parent_eq_none (Nat.le_refl _))

/-- Where one node is given a parent and every other keeps its own, parents change at that node. -/
theorem parentOf_of_map {after : Dom} {target : Link} (hchild : child < dom.size)
    {change : NodeId → Node → Node}
    (hget : ∀ id, after.get? (some id) = (dom.get? (some id)).map (change id))
    (hchange : ∀ id node,
      (change id node).parent = if (some child : Link) = some id then target else node.parent) :
    after.parentOf = Function.update dom.parentOf child target := by
  funext id
  rw [parentOf, parent, hget, Option.bind_map, Function.update_apply]
  by_cases hid : id = child
  · subst hid
    obtain ⟨node, hnode⟩ := exists_get?_of_lt hchild
    simp [hnode, hchange]
  · have hne : (some child : Link) ≠ some id := fun heq => hid (Option.some.inj heq).symm
    rw [if_neg hid, parentOf, parent]
    refine congrArg (Option.bind _) (funext fun node => ?_)
    rw [Function.comp_apply, hchange, if_neg hne]

/-- Appending gives the child its parent, and leaves every other parent as it is. -/
theorem parentOf_append (parent : Link) (hchild : child < dom.size) :
    (dom.append parent (some child)).parentOf = Function.update dom.parentOf child parent :=
  parentOf_of_map hchild (get?_append dom parent (some child)) fun _ _ => rfl

/-- Inserting gives the new node the parent of its sibling, and leaves every other parent as it
is. -/
theorem parentOf_insertBefore (hsibling : dom.parentOf sibling = some above)
    (hchild : child < dom.size) :
    (dom.insertBefore (some sibling) (some child)).parentOf =
      Function.update dom.parentOf child (some above) := by
  obtain ⟨place, hplace, habove⟩ := Option.bind_eq_some_iff.mp hsibling
  rw [← habove]
  exact parentOf_of_map hchild (get?_insertBefore dom hplace (some child)) fun _ _ => rfl

/-- A node that is taken out has no parent, and every other node has the one it had. -/
theorem parentOf_detach (dom : Dom) (id : NodeId) :
    (dom.detach (some id)).parentOf = Function.update dom.parentOf id none := by
  by_cases hid : id < dom.size
  · obtain ⟨place, hplace⟩ := exists_get?_of_lt hid
    exact parentOf_of_map hid (get?_detach dom hplace) fun _ _ => rfl
  · have hmissing := get?_eq_none_iff.mpr (Nat.not_lt.mp hid)
    rw [detach_of_missing hmissing, eq_comm, Function.update_eq_self_iff, parentOf, parent,
      hmissing]
    rfl

/-- An update that changes no parent. -/
theorem parentOf_update {link : Link} {change : Node → Node}
    (hchange : ∀ node, (change node).parent = node.parent) :
    (dom.update link change).parentOf = dom.parentOf := by
  funext id
  rw [parentOf, parentOf, parent, parent, get?_update]
  split
  · rw [Option.bind_map]
    exact congrArg (Option.bind _) (funext hchange)
  · rfl

/-! ## What becomes of the other links -/

section

variable {place : Node} (hid : id < dom.size) (parent link new : Link)

include hid

/-- Appending changes the first child only of a parent that had none. -/
theorem firstChild_append :
    (dom.append parent link).firstChild (some id) =
      if parent = some id then (dom.firstChild (some id)).or link
      else dom.firstChild (some id) := by
  obtain ⟨node, hnode⟩ := exists_get?_of_lt hid
  simp only [firstChild, get?_append, hnode, Option.map_some, Option.bind_some]

/-- The child that is appended is the last child of its parent. -/
theorem lastChild_append :
    (dom.append parent link).lastChild (some id) =
      if parent = some id then link else dom.lastChild (some id) := by
  obtain ⟨node, hnode⟩ := exists_get?_of_lt hid
  simp only [lastChild, get?_append, hnode, Option.map_some, Option.bind_some]

/-- The child that is appended stands behind the last child so far. -/
theorem prevSibling_append :
    (dom.append parent link).prevSibling (some id) =
      if link = some id then dom.lastChild parent else dom.prevSibling (some id) := by
  obtain ⟨node, hnode⟩ := exists_get?_of_lt hid
  simp only [prevSibling, get?_append, hnode, Option.map_some, Option.bind_some]

/-- The last child so far is followed by the one that is appended, which is followed by none. -/
theorem nextSibling_append :
    (dom.append parent link).nextSibling (some id) =
      if dom.lastChild parent = some id then link
      else if link = some id then none else dom.nextSibling (some id) := by
  obtain ⟨node, hnode⟩ := exists_get?_of_lt hid
  simp only [nextSibling, get?_append, hnode, Option.map_some, Option.bind_some]

variable (hplace : dom.get? link = some place)

include hplace

/-- Inserting changes the first child only of a parent whose first child is the sibling. -/
theorem firstChild_insertBefore :
    (dom.insertBefore link new).firstChild (some id) =
      if place.prevSibling = none ∧ place.parent = some id then new
      else dom.firstChild (some id) := by
  obtain ⟨node, hnode⟩ := exists_get?_of_lt hid
  simp only [firstChild, get?_insertBefore dom hplace, hnode, Option.map_some, Option.bind_some]

/-- The new node is before the sibling, and behind what was before the sibling. -/
theorem prevSibling_insertBefore :
    (dom.insertBefore link new).prevSibling (some id) =
      if link = some id then new
      else if new = some id then place.prevSibling else dom.prevSibling (some id) := by
  obtain ⟨node, hnode⟩ := exists_get?_of_lt hid
  simp only [prevSibling, get?_insertBefore dom hplace, hnode, Option.map_some, Option.bind_some]

/-- The new node is behind what was before the sibling, and before the sibling. -/
theorem nextSibling_insertBefore :
    (dom.insertBefore link new).nextSibling (some id) =
      if place.prevSibling = some id then new
      else if new = some id then link else dom.nextSibling (some id) := by
  obtain ⟨node, hnode⟩ := exists_get?_of_lt hid
  simp only [nextSibling, get?_insertBefore dom hplace, hnode, Option.map_some, Option.bind_some]

end

/-! ## The forest that is stored afterwards -/

/-- A new node in the store is a new node in the forest. -/
theorem Stores.create (h : dom.Stores forest) (payload : Payload) :
    (dom.create payload).1.Stores (forest.create payload) where
  proper := h.proper.create payload
  get? id := by
    rw [get?_create, h.get?, h.size_eq, Forest.node, Forest.node, Forest.getElem?_payloads_create]
    by_cases hid : id = forest.size
    · subst hid
      have hparent : (forest.create payload).parent forest.size = none :=
        h.proper.parent_eq_none (Nat.le_refl _)
      have hchildren : (forest.create payload).children forest.size = [] :=
        h.proper.children_eq_nil (Nat.le_refl _)
      simp [hparent, hchildren, Forest.next_of_root hparent, Forest.prev_of_root hparent]
    · have hne : (some id : Link) ≠ some forest.size := fun heq => hid (Option.some.inj heq)
      rw [if_neg hne, if_neg hid]
      rfl

/-- Appending a node without a parent to a node that is not below it adds it to a list of
children. -/
theorem Stores.append (h : dom.Stores forest) (hroot : forest.parent child = none)
    (hchild : child < forest.size) (habove : above < forest.size)
    (houtside : ¬ Within forest.parent above child) :
    (dom.append (some above) (some child)).Stores (forest.append above child) where
  proper := h.proper.append hroot hchild habove houtside
  get? id := by
    rw [get?_append, h.get?, Forest.node, Forest.node, Option.map_map, (h.links_eq above).2.2.1,
      h.proper.next_append hroot, Forest.prev_append]
    refine congrArg (Option.map · _) (funext fun payload => ?_)
    -- Only `above` has another list of children, and with it other first and last children.
    by_cases hid : id = above
    · subst hid
      simp [Forest.append, Forest.place, Function.update_apply, List.head?_append, eq_comm]
    · simp [Forest.append, Forest.place, Function.update_apply, hid, Ne.symm hid, eq_comm]

/-- Inserting a node without a parent before a sibling that is not below it inserts it into a list
of children. -/
theorem Stores.insertBefore (h : dom.Stores forest) (hsibling : forest.parent sibling = some above)
    (hroot : forest.parent child = none) (hchild : child < forest.size)
    (houtside : ¬ Below forest.parent sibling child) :
    (dom.insertBefore (some sibling) (some child)).Stores (forest.insertBefore sibling child) where
  proper := h.proper.insertBefore hsibling hroot hchild houtside
  get? id := by
    have hmem : sibling ∈ forest.children above := h.proper.mem_children.mpr hsibling
    have hnodup := h.proper.nodup above
    obtain ⟨payload, hpayload⟩ : ∃ payload, forest.payloads[sibling]? = some payload :=
      ⟨_, List.getElem?_eq_getElem (h.proper.child_lt hsibling)⟩
    -- What the operation looks up at the sibling is what the forest says of it.
    have hplace : dom.get? (some sibling) = _ := (h.get? sibling).trans
      (by rw [Forest.node, hpayload, Option.map_some])
    rw [get?_insertBefore dom hplace, h.get?, Forest.node, Forest.node, Option.map_map,
      h.proper.next_insertBefore hsibling hroot, h.proper.prev_insertBefore hsibling hroot]
    have hpayloads : (forest.insertBefore sibling child).payloads = forest.payloads := by
      simp [Forest.insertBefore, hsibling, Forest.place]
    rw [hpayloads]
    refine congrArg (Option.map · _) (funext fun payload => ?_)
    by_cases hid : id = above
    · subst hid
      simp [Forest.insertBefore, hsibling, Forest.place, Function.update_apply,
        Siblings.head?_insertBefore hnodup hmem, Siblings.getLast?_insertBefore hmem,
        Forest.prev_of_under hsibling, eq_comm]
    · simp [Forest.insertBefore, hsibling, Forest.place, Function.update_apply, hid, Ne.symm hid,
        eq_comm]

/-- Taking a node out of the store takes it out of the list that it is in. -/
theorem Stores.detach (h : dom.Stores forest) (id : NodeId) :
    (dom.detach (some id)).Stores (forest.detach id) where
  proper := h.proper.detach id
  get? other := by
    cases hpayload : forest.payloads[id]? with
    | none =>
        -- A node that is not there stands in no list either.
        have hmissing : dom.get? (some id) = none := by
          rw [h.get?, Forest.node, hpayload, Option.map_none]
        have hroot := h.proper.parent_eq_none (List.getElem?_eq_none_iff.mp hpayload)
        simp only [detach_of_missing hmissing, Forest.detach, hroot, h.get?]
    | some payload =>
        have hplace : dom.get? (some id) = _ := (h.get? id).trans
          (by rw [Forest.node, hpayload, Option.map_some])
        rw [get?_detach dom hplace, h.get?, Forest.node, Forest.node, Option.map_map]
        cases hparent : forest.parent id with
        | none =>
            -- A root has no siblings, so nothing is written at any other node.
            have hsame : forest.detach id = forest := by simp only [Forest.detach, hparent]
            rw [hsame]
            refine congrArg (Option.map · _) (funext fun payload => ?_)
            by_cases hother : other = id
            · subst hother
              simp [hparent, Forest.prev_of_root hparent, Forest.next_of_root hparent]
            · simp [Forest.prev_of_root hparent, Forest.next_of_root hparent, Ne.symm hother]
        | some above =>
            have hmem : id ∈ forest.children above := h.proper.mem_children.mpr hparent
            have hnodup := h.proper.nodup above
            have hpayloads : (forest.detach id).payloads = forest.payloads := by
              simp only [Forest.detach, hparent]
            rw [h.proper.next_detach hparent, h.proper.prev_detach hparent, hpayloads]
            refine congrArg (Option.map · _) (funext fun payload => ?_)
            -- Only the parent may get another first or last child.
            by_cases hother : other = above
            · subst hother
              simp [Forest.detach, hparent, Function.update_apply,
                Siblings.head?_erase hnodup hmem, Siblings.getLast?_erase hnodup hmem,
                Forest.prev_of_under hparent, Forest.next_of_under hparent, eq_comm]
            · simp [Forest.detach, hparent, Function.update_apply, hother, eq_comm]

/-- Another payload in the store is another payload in the forest. -/
theorem Stores.setPayload (h : dom.Stores forest) (id : NodeId) (payload : Payload) :
    (dom.update (some id) fun node => { node with payload }).Stores
      (forest.setPayload id payload) where
  proper := h.proper.setPayload id payload
  get? other := by
    rw [get?_update_map, h.get?, Forest.node, Forest.node, Forest.setPayload, List.getElem?_set,
      Option.map_map]
    by_cases hid : id = other
    · subst hid
      by_cases hlt : id < forest.payloads.length
      · simp [hlt, Forest.next, Forest.prev]
      · simp [hlt]
    · simp [hid, Forest.next, Forest.prev, Function.comp_def]

/-- Updates that agree on the node they change are the same. -/
theorem update_congr {link : Link} {change other : Node → Node}
    (h : ∀ node, dom.get? link = some node → change node = other node) :
    dom.update link change = dom.update link other := by
  cases link with
  | none => rfl
  | some id =>
      refine congrArg Dom.mk (Array.ext_getElem? fun index => ?_)
      rw [Array.getElem?_modify, Array.getElem?_modify]
      split
      · next heq =>
          subst heq
          exact Option.map_congr h
      · rfl

/-- An update that leaves the node it names as it is changes nothing. -/
theorem update_eq_self {link : Link} {change : Node → Node}
    (h : ∀ node, dom.get? link = some node → change node = node) :
    dom.update link change = dom := by
  have hid : dom.update link id = dom := by
    cases link with
    | none => rfl
    | some id =>
        refine congrArg Dom.mk (Array.ext_getElem? fun index => ?_)
        rw [Array.getElem?_modify]
        split
        · exact congrFun Option.map_id _
        · rfl
  rw [update_congr h]
  exact hid

/-- Two updates of one node are one update. -/
theorem update_update (dom : Dom) (link : Link) (first second : Node → Node) :
    (dom.update link first).update link second =
      dom.update link fun node => second (first node) := by
  cases link with
  | none => rfl
  | some id =>
      refine congrArg Dom.mk (Array.ext_getElem? fun index => ?_)
      show ((dom.nodes.modify id first).modify id second)[index]? = (dom.nodes.modify id _)[index]?
      rw [Array.getElem?_modify, Array.getElem?_modify, Array.getElem?_modify]
      split
      · exact Option.map_map ..
      · rfl

/-- An update of a node that is not there changes nothing. -/
theorem update_of_missing {link : Link} (h : dom.get? link = none) (change : Node → Node) :
    dom.update link change = dom := by
  refine update_eq_self fun node hnode => ?_
  rw [h] at hnode
  cases hnode

/-- A payload made from the old one leaves a document well-formed. -/
theorem WellFormed.changePayload (h : dom.WellFormed) (link : Link) (change : Payload → Payload) :
    (dom.update link fun node => { node with payload := change node.payload }).WellFormed := by
  cases link with
  | none => exact h
  | some id =>
      have hsame : (dom.update (some id) fun node =>
            { node with payload := change node.payload }) =
          dom.update (some id) fun node =>
            { node with payload := change ((dom.payload? (some id)).getD .document) } := by
        refine update_congr fun node hnode => ?_
        rw [payload?, hnode]
        rfl
      rw [hsame]
      exact (h.stores.setPayload id _).wellFormed

/-- Text is added to a last child that is a text. -/
theorem appendText_of_text {parent : Link} {old : String}
    (h : dom.payload? (dom.lastChild parent) = some (.text old)) (text : String) :
    dom.appendText parent text =
      dom.update (dom.lastChild parent) fun node =>
        { node with payload := .text (old ++ text) } := by
  simp only [appendText, h]

/-- Where the last child is no text, a new text is added behind it. -/
theorem appendText_of_no_text {parent : Link}
    (h : ∀ old, dom.payload? (dom.lastChild parent) ≠ some (.text old)) (text : String) :
    dom.appendText parent text =
      (dom.create (.text text)).1.append parent (some dom.size) := by
  cases hpayload : dom.payload? (dom.lastChild parent) with
  | none => simp only [appendText, hpayload]; rfl
  | some payload =>
      cases payload with
      | text old => exact absurd hpayload (h old)
      | _ => simp only [appendText, hpayload]; rfl

/-- Text goes to the last child if that is a text, and else into a node of its own, in the store as
in the forest. -/
theorem Stores.appendText (h : dom.Stores forest) (habove : above < forest.size) (text : String) :
    (dom.appendText (some above) text).Stores (forest.appendText above text) := by
  have hlast : dom.lastChild (some above) = (forest.children above).getLast? :=
    (h.links_eq above).2.2.1
  cases htext : forest.lastText? above with
  | some found =>
      obtain ⟨last, hget, hfound⟩ := Option.bind_eq_some_iff.mp htext
      rw [hget] at hlast
      split at hfound
      · next old hpayload =>
          cases hfound
          rw [appendText_of_text (by rw [hlast, h.payload_eq, hpayload]), hlast, Forest.appendText,
            htext]
          exact h.setPayload last _
      · cases hfound
  | none =>
      have hno : ∀ old, dom.payload? (dom.lastChild (some above)) ≠ some (.text old) := by
        intro old hpayload
        rw [hlast] at hpayload
        cases hget : (forest.children above).getLast? with
        | none => simp [hget, payload?] at hpayload
        | some last =>
            rw [hget, h.payload_eq] at hpayload
            simp [Forest.lastText?, hget, hpayload] at htext
      -- The new node is put under `above`, which existed before it and so is not within it.
      have hgrown := h.create (.text text)
      have hnew : forest.parent forest.size = none := h.proper.parent_eq_none (Nat.le_refl _)
      have houtside : ¬ Within forest.parent above forest.size := fun hwithin =>
        Nat.lt_irrefl _ (h.proper.within_lt habove hwithin)
      rw [appendText_of_no_text hno, Forest.appendText, htext, h.size_eq]
      refine hgrown.append hnew ?_ ?_ houtside
      · rw [Forest.size_create]
        exact Nat.lt_succ_self _
      · rw [Forest.size_create]
        exact Nat.lt_succ_of_lt habove

end HtmlTemplate.Dom
