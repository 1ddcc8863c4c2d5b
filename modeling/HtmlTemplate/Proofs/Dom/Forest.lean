import HtmlTemplate.Proofs.Dom.Ancestry
import HtmlTemplate.Proofs.Dom.Siblings

/-!
# Ordered forests

A `Forest` is what a document says once its links are forgotten: the payload of every node, its
parent, and its children as a list. The operations on documents are list operations here: adding at
the end of a list, inserting before an entry, taking an entry out. `Forest.Proper` is what makes
such a triple a forest; every operation keeps it. `Forest.node` is the way back: the links that a
node has to have in order to stand where the forest says.
-/

namespace HtmlTemplate

/-- Payloads, parents and lists of children, by the number of the node. -/
@[ext]
structure Forest where
  payloads : List Payload
  parent : NodeId → Link
  children : NodeId → List NodeId

namespace Forest

/-- The number of nodes. -/
def size (forest : Forest) : Nat := forest.payloads.length

/-! ## Operations -/

/-- Adds a node that stands alone. -/
def create (forest : Forest) (payload : Payload) : Forest :=
  { forest with payloads := forest.payloads ++ [payload] }

/-- Puts `child` under `above`, whose children are `ids` from then on. -/
def place (forest : Forest) (child above : NodeId) (ids : List NodeId) : Forest :=
  { forest with
    parent := Function.update forest.parent child (some above)
    children := Function.update forest.children above ids }

/-- Adds `child` at the end of the children of `above`. -/
def append (forest : Forest) (above child : NodeId) : Forest :=
  forest.place child above (forest.children above ++ [child])

/-- Puts `id` right before `sibling` among the children of the same parent. -/
def insertBefore (forest : Forest) (sibling id : NodeId) : Forest :=
  match forest.parent sibling with
  | none => forest
  | some above =>
      forest.place id above (Siblings.insertBefore sibling id (forest.children above))

/-- Takes `id` out of the children of its parent. -/
def detach (forest : Forest) (id : NodeId) : Forest :=
  match forest.parent id with
  | none => forest
  | some above =>
      { forest with
        parent := Function.update forest.parent id none
        children := Function.update forest.children above ((forest.children above).erase id) }

/-- The last child of `above` if it is a text, with what it says. -/
def lastText? (forest : Forest) (above : NodeId) : Option (NodeId × String) :=
  (forest.children above).getLast?.bind fun last =>
    match forest.payloads[last]? with
    | some (.text old) => some (last, old)
    | _ => none

/-- Gives a node another payload. -/
def setPayload (forest : Forest) (id : NodeId) (payload : Payload) : Forest :=
  { forest with payloads := forest.payloads.set id payload }

/-- Adds text at the end of the children of `above`: to the last child if that is a text, else as a
new node. -/
def appendText (forest : Forest) (above : NodeId) (text : String) : Forest :=
  match forest.lastText? above with
  | some (last, old) => forest.setPayload last (.text (old ++ text))
  | none => (forest.create (.text text)).append above forest.size

/-! ## Links -/

/-- The sibling right behind a node. -/
def next (forest : Forest) (id : NodeId) : Link :=
  (forest.parent id).bind fun above => Siblings.next? id (forest.children above)

/-- The sibling right before a node. -/
def prev (forest : Forest) (id : NodeId) : Link :=
  (forest.parent id).bind fun above => Siblings.prev? id (forest.children above)

/-- A node with the links that its place in the forest asks for. -/
def node (forest : Forest) (id : NodeId) : Option Node :=
  forest.payloads[id]?.map fun payload =>
    { payload
      parent := forest.parent id
      firstChild := (forest.children id).head?
      lastChild := (forest.children id).getLast?
      prevSibling := forest.prev id
      nextSibling := forest.next id }

/-! ## Proper forests -/

/-- Each node stands once in the list of its parent and in no other list, parents and children
exist, and no node is its own descendant. -/
structure Proper (forest : Forest) : Prop where
  nodup : ∀ id, (forest.children id).Nodup
  mem_children : ∀ {id child}, child ∈ forest.children id ↔ forest.parent child = some id
  child_lt : ∀ {child above}, forest.parent child = some above → child < forest.size
  parent_lt : ∀ {child above}, forest.parent child = some above → above < forest.size
  acyclic : Acyclic forest.parent

variable {forest : Forest} {child above sibling id : NodeId}

/-- A node without a parent is in no list of children. -/
theorem Proper.not_mem_of_root (h : forest.Proper) (hroot : forest.parent child = none)
    (id : NodeId) : child ∉ forest.children id := by
  rw [h.mem_children, hroot]
  exact Option.some_ne_none _ ∘ Eq.symm

/-- A node that does not exist has no children. -/
theorem Proper.children_eq_nil (h : forest.Proper) (hid : forest.size ≤ id) :
    forest.children id = [] := by
  rw [List.eq_nil_iff_forall_not_mem]
  exact fun child hmem => absurd (h.parent_lt (h.mem_children.mp hmem)) (Nat.not_lt.mpr hid)

/-- A node that does not exist has no parent. -/
theorem Proper.parent_eq_none (h : forest.Proper) (hid : forest.size ≤ id) :
    forest.parent id = none := by
  rw [Option.eq_none_iff_forall_ne_some]
  exact fun above habove => absurd (h.child_lt habove) (Nat.not_lt.mpr hid)

/-- A new node is one node more. -/
@[simp] theorem size_create (forest : Forest) (payload : Payload) :
    (forest.create payload).size = forest.size + 1 := by
  simp [create, size]

/-- The new node comes behind all others, and these keep their payloads. -/
theorem getElem?_payloads_create (forest : Forest) (payload : Payload) (id : NodeId) :
    (forest.create payload).payloads[id]? =
      if id = forest.size then some payload else forest.payloads[id]? := by
  show (forest.payloads ++ [payload])[id]? = _
  rw [Forest.size, List.getElem?_append]
  split_ifs with hlt heq heq
  · exact absurd hlt (Nat.not_lt.mpr (Nat.le_of_eq heq.symm))
  · rfl
  · simp [heq]
  · rw [List.getElem?_eq_none (Nat.not_lt.mp hlt), List.getElem?_eq_none]
    have hbehind := Nat.lt_of_le_of_ne (Nat.not_lt.mp hlt) (Ne.symm heq)
    exact Nat.succ_le_of_lt (Nat.sub_pos_of_lt hbehind)

/-- A new node keeps a forest proper. -/
theorem Proper.create (h : forest.Proper) (payload : Payload) : (forest.create payload).Proper where
  nodup := h.nodup
  mem_children := h.mem_children
  child_lt hparent := by
    rw [size_create]
    exact Nat.lt_succ_of_lt (h.child_lt hparent)
  parent_lt hparent := by
    rw [size_create]
    exact Nat.lt_succ_of_lt (h.parent_lt hparent)
  acyclic := h.acyclic

/-- Another payload keeps a forest proper. -/
theorem Proper.setPayload (h : forest.Proper) (id : NodeId) (payload : Payload) :
    (forest.setPayload id payload).Proper where
  nodup := h.nodup
  mem_children := h.mem_children
  child_lt hparent := by simpa [Forest.setPayload, size] using h.child_lt hparent
  parent_lt hparent := by simpa [Forest.setPayload, size] using h.parent_lt hparent
  acyclic := h.acyclic

/-- The ancestors of a node that exists exist. -/
theorem Proper.within_lt (h : forest.Proper) (hid : id < forest.size)
    (hwithin : Within forest.parent id above) : above < forest.size := by
  rcases Relation.ReflTransGen.cases_tail hwithin with rfl | ⟨child, -, hchild⟩
  · exact hid
  · exact h.parent_lt hchild

/-- Putting a root under a node outside its own tree keeps a forest proper, wherever in the list of
the new parent it goes. -/
theorem Proper.place (h : forest.Proper) {ids : List NodeId} (hroot : forest.parent child = none)
    (hchild : child < forest.size) (habove : above < forest.size)
    (houtside : ¬ Within forest.parent above child) (hnodup : ids.Nodup)
    (hids : ∀ id, id ∈ ids ↔ id = child ∨ id ∈ forest.children above) :
    (forest.place child above ids).Proper where
  -- Only the child has another parent, and only `above` has another list.
  nodup id := by
    by_cases hid : id = above
    · subst hid
      simpa [Forest.place] using hnodup
    · simpa [Forest.place, hid] using h.nodup id
  mem_children {id other} := by
    by_cases hother : other = child
    · subst hother
      by_cases hid : id = above
      · subst hid
        simp [Forest.place, hids]
      · simp [Forest.place, hid, Ne.symm hid, h.not_mem_of_root hroot]
    · by_cases hid : id = above
      · subst hid
        simp [Forest.place, hids, hother, h.mem_children]
      · simp [Forest.place, hid, hother, h.mem_children]
  child_lt {other target} hparent := by
    by_cases hother : other = child
    · exact hother ▸ hchild
    · exact h.child_lt (by simpa [Forest.place, hother] using hparent)
  parent_lt {other target} hparent := by
    by_cases hother : other = child
    · subst hother
      have htarget : above = target := by simpa [Forest.place] using hparent
      exact htarget ▸ habove
    · exact h.parent_lt (by simpa [Forest.place, hother] using hparent)
  acyclic := h.acyclic.attach houtside

/-- Adding a node without a parent under a node that is not below it keeps a forest proper. -/
theorem Proper.append (h : forest.Proper) (hroot : forest.parent child = none)
    (hchild : child < forest.size) (habove : above < forest.size)
    (houtside : ¬ Within forest.parent above child) : (forest.append above child).Proper := by
  refine h.place hroot hchild habove houtside ?_ ?_
  · rw [← List.concat_eq_append]
    exact (h.nodup above).concat (h.not_mem_of_root hroot above)
  · intro id
    rw [List.mem_append, List.mem_singleton, or_comm]

/-- Inserting a node without a parent before a sibling that is not below it keeps a forest
proper. -/
theorem Proper.insertBefore (h : forest.Proper) (hsibling : forest.parent sibling = some above)
    (hroot : forest.parent child = none) (hchild : child < forest.size)
    (houtside : ¬ Below forest.parent sibling child) :
    (forest.insertBefore sibling child).Proper := by
  have hmem : sibling ∈ forest.children above := h.mem_children.mpr hsibling
  rw [below_iff_of_under hsibling] at houtside
  simp only [Forest.insertBefore, hsibling]
  exact h.place hroot hchild (h.parent_lt hsibling) houtside
    (Siblings.nodup_insertBefore (h.nodup above) hmem (h.not_mem_of_root hroot above))
    (Siblings.mem_insertBefore hmem)

/-- Taking out any node keeps a forest proper. -/
theorem Proper.detach (h : forest.Proper) (id : NodeId) : (forest.detach id).Proper := by
  cases hparent : forest.parent id with
  | none => simpa [Forest.detach, hparent] using h
  | some above =>
      simp only [Forest.detach, hparent]
      refine ⟨?_, ?_, ?_, ?_, h.acyclic.release id⟩
      -- The list of the parent loses the node, which no other list had.
      · intro target
        by_cases htarget : target = above
        · subst htarget
          simpa using (h.nodup target).erase id
        · simpa [htarget] using h.nodup target
      · intro target other
        by_cases hother : other = id
        · subst hother
          by_cases htarget : target = above
          · subst htarget
            simp [(h.nodup target).mem_erase_iff]
          · simp [htarget, h.mem_children, hparent, Ne.symm htarget]
        · by_cases htarget : target = above
          · subst htarget
            simp [(h.nodup target).mem_erase_iff, hother, h.mem_children]
          · simp [htarget, hother, h.mem_children]
      · intro other target hother
        by_cases hid : other = id
        · simp [hid] at hother
        · exact h.child_lt (by simpa [hid] using hother)
      · intro other target hother
        by_cases hid : other = id
        · simp [hid] at hother
        · exact h.parent_lt (by simpa [hid] using hother)

/-! ## What the operations do to the links -/

/-- The next sibling is looked up in the children of the parent. -/
theorem next_of_under (h : forest.parent id = some above) :
    forest.next id = Siblings.next? id (forest.children above) := by
  rw [next, h, Option.bind_some]

/-- The previous sibling is looked up in the children of the parent. -/
theorem prev_of_under (h : forest.parent id = some above) :
    forest.prev id = Siblings.prev? id (forest.children above) := by
  rw [prev, h, Option.bind_some]

/-- A node without a parent has no next sibling. -/
theorem next_of_root (h : forest.parent id = none) : forest.next id = none := by
  rw [next, h, Option.bind_none]

/-- A node without a parent has no previous sibling. -/
theorem prev_of_root (h : forest.parent id = none) : forest.prev id = none := by
  rw [prev, h, Option.bind_none]

/-- The sibling before a node has the same parent. -/
theorem Proper.under_of_prev (h : forest.Proper) {before : NodeId}
    (habove : forest.parent id = some above) (hprev : forest.prev id = some before) :
    forest.parent before = some above := by
  rw [prev_of_under habove] at hprev
  exact h.mem_children.mp (Siblings.mem_of_prev? hprev)

/-- The sibling behind a node has the same parent. -/
theorem Proper.under_of_next (h : forest.Proper) {behind : NodeId}
    (habove : forest.parent id = some above) (hnext : forest.next id = some behind) :
    forest.parent behind = some above := by
  rw [next_of_under habove] at hnext
  exact h.mem_children.mp (Siblings.mem_of_next? hnext)

/-- No node is its own sibling. -/
theorem Proper.next_ne_self (h : forest.Proper) (id : NodeId) : forest.next id ≠ some id := by
  intro hnext
  obtain ⟨above, habove, -⟩ := Option.bind_eq_some_iff.mp hnext
  rw [next_of_under habove] at hnext
  exact Siblings.next?_ne_self (h.nodup above) id hnext

/-- The sibling behind a node is the one that the node is before. -/
theorem Proper.next_eq_some_iff (h : forest.Proper) {behind : NodeId} :
    forest.next id = some behind ↔ forest.prev behind = some id := by
  constructor
  · intro hnext
    obtain ⟨above, habove, -⟩ := Option.bind_eq_some_iff.mp hnext
    have hbehind := h.under_of_next habove hnext
    rw [next_of_under habove] at hnext
    rw [prev_of_under hbehind]
    exact (Siblings.next?_eq_some_iff (h.nodup above)).mp hnext
  · intro hprev
    obtain ⟨above, habove, -⟩ := Option.bind_eq_some_iff.mp hprev
    have hid := h.under_of_prev habove hprev
    rw [prev_of_under habove] at hprev
    rw [next_of_under hid]
    exact (Siblings.next?_eq_some_iff (h.nodup above)).mpr hprev

/-- The first child of a node is its child without a sibling before it. -/
theorem Proper.head?_children_eq_some_iff (h : forest.Proper) :
    (forest.children above).head? = some id ↔
      forest.parent id = some above ∧ forest.prev id = none := by
  constructor
  · intro hhead
    have hmem := List.mem_of_mem_head? hhead
    have habove := h.mem_children.mp hmem
    rw [prev_of_under habove, Siblings.prev?_eq_none_iff (h.nodup above) hmem]
    exact ⟨habove, hhead⟩
  · rintro ⟨habove, hprev⟩
    have hmem := h.mem_children.mpr habove
    rw [prev_of_under habove, Siblings.prev?_eq_none_iff (h.nodup above) hmem] at hprev
    exact hprev

/-- The neighbour that `pick` finds for a node among its siblings. -/
def neighbour (forest : Forest) (pick : NodeId → List NodeId → Link) (id : NodeId) : Link :=
  (forest.parent id).bind fun above => pick id (forest.children above)

/-- Only the node that is placed and the children of its new parent get other neighbours. -/
theorem neighbour_place (pick : NodeId → List NodeId → Link) (ids : List NodeId) (id : NodeId) :
    (forest.place child above ids).neighbour pick id =
      if id = child ∨ forest.parent id = some above then pick id ids
      else forest.neighbour pick id := by
  by_cases hid : id = child
  · simp [neighbour, place, hid]
  · cases hparent : forest.parent id with
    | none => simp [neighbour, place, hid, hparent]
    | some target =>
        by_cases htarget : target = above
        · simp [neighbour, place, hid, hparent, htarget]
        · simp [neighbour, place, hid, hparent, htarget]

/-- Only the node that is taken out and its siblings so far get other neighbours. -/
theorem neighbour_detach (pick : NodeId → List NodeId → Link)
    (hparent : forest.parent id = some above) (other : NodeId) :
    (forest.detach id).neighbour pick other =
      if other = id then none
      else if forest.parent other = some above then pick other ((forest.children above).erase id)
      else forest.neighbour pick other := by
  by_cases hid : other = id
  · simp [neighbour, detach, hparent, hid]
  · cases hother : forest.parent other with
    | none => simp [neighbour, detach, hparent, hid, hother]
    | some target =>
        by_cases htarget : target = above
        · simp [neighbour, detach, hparent, hid, hother, htarget]
        · simp [neighbour, detach, hparent, hid, hother, htarget]

/-- Where the children of a node are listed anew, next siblings are looked up in the new list. -/
theorem next_place (ids : List NodeId) (id : NodeId) :
    (forest.place child above ids).next id =
      if id = child ∨ forest.parent id = some above then Siblings.next? id ids
      else forest.next id :=
  neighbour_place Siblings.next? ids id

/-- Where the children of a node are listed anew, previous siblings are looked up in the new
list. -/
theorem prev_place (ids : List NodeId) (id : NodeId) :
    (forest.place child above ids).prev id =
      if id = child ∨ forest.parent id = some above then Siblings.prev? id ids
      else forest.prev id :=
  neighbour_place Siblings.prev? ids id

/-- Adding at the end gives the last child so far a next sibling. -/
theorem Proper.next_append (h : forest.Proper) (hroot : forest.parent child = none)
    (above id : NodeId) :
    (forest.append above child).next id =
      if (forest.children above).getLast? = some id then some child
      else if id = child then none else forest.next id := by
  rw [Forest.append, next_place, Siblings.next?_concat (h.nodup above)]
  by_cases hid : id = child
  · subst hid
    have hmem := h.not_mem_of_root hroot above
    simp [Siblings.next?_of_not_mem hmem]
  · by_cases habove : forest.parent id = some above
    · simp [hid, habove, next_of_under habove]
    · have hlast : (forest.children above).getLast? ≠ some id :=
        fun hlast => habove (h.mem_children.mp (List.mem_of_getLast? hlast))
      simp [hid, habove, hlast]

/-- What is added at the end stands behind the last child so far, and the others stay behind what
they were behind. -/
theorem prev_append (forest : Forest) (above child id : NodeId) :
    (forest.append above child).prev id =
      if id = child then (forest.children above).getLast? else forest.prev id := by
  rw [Forest.append, prev_place, Siblings.prev?_concat]
  by_cases hid : id = child
  · simp [hid]
  · by_cases habove : forest.parent id = some above
    · simp [hid, habove, prev_of_under habove]
    · simp [hid, habove]

/-- Inserting before a sibling gives the node before it another next sibling. -/
theorem Proper.next_insertBefore (h : forest.Proper) (hsibling : forest.parent sibling = some above)
    (hroot : forest.parent child = none) (id : NodeId) :
    (forest.insertBefore sibling child).next id =
      if forest.prev sibling = some id then some child
      else if id = child then some sibling else forest.next id := by
  have hmem : sibling ∈ forest.children above := h.mem_children.mpr hsibling
  simp only [Forest.insertBefore, hsibling]
  rw [next_place, Siblings.next?_insertBefore (h.nodup above) hmem (h.not_mem_of_root hroot above),
    ← prev_of_under hsibling]
  by_cases hid : id = child
  · simp [hid]
  · by_cases habove : forest.parent id = some above
    · simp [hid, habove, next_of_under habove]
    · have hprev : forest.prev sibling ≠ some id := fun hprev =>
        habove (h.under_of_prev hsibling hprev)
      simp [hid, habove, hprev]

/-- What is inserted comes between the sibling and what stood before it. -/
theorem Proper.prev_insertBefore (h : forest.Proper) (hsibling : forest.parent sibling = some above)
    (hroot : forest.parent child = none) (id : NodeId) :
    (forest.insertBefore sibling child).prev id =
      if id = sibling then some child
      else if id = child then forest.prev sibling else forest.prev id := by
  have hmem : sibling ∈ forest.children above := h.mem_children.mpr hsibling
  simp only [Forest.insertBefore, hsibling]
  rw [prev_place, Siblings.prev?_insertBefore (h.nodup above) hmem (h.not_mem_of_root hroot above),
    ← prev_of_under hsibling]
  by_cases hid : id = child
  · simp [hid]
  · by_cases habove : forest.parent id = some above
    · simp [hid, habove, prev_of_under habove]
    · have hne : id ≠ sibling := fun heq => habove (heq ▸ hsibling)
      simp [hid, habove, hne]

/-- Taking a node out makes its two neighbours neighbours of each other. -/
theorem Proper.next_detach (h : forest.Proper) (hparent : forest.parent id = some above)
    (other : NodeId) :
    (forest.detach id).next other =
      if other = id then none
      else if forest.prev id = some other then forest.next id else forest.next other := by
  have hmem : id ∈ forest.children above := h.mem_children.mpr hparent
  show (forest.detach id).neighbour Siblings.next? other = _
  rw [neighbour_detach _ hparent, Siblings.next?_erase (h.nodup above) hmem,
    ← prev_of_under hparent, ← next_of_under hparent]
  by_cases hid : other = id
  · simp [hid]
  · by_cases habove : forest.parent other = some above
    · simp [hid, habove, next_of_under habove]
    · have hprev : forest.prev id ≠ some other := fun hprev =>
        habove (h.under_of_prev hparent hprev)
      simp only [hid, habove, hprev, if_false]
      rfl

/-- What stood behind a node that is taken out is behind what stood before the node. -/
theorem Proper.prev_detach (h : forest.Proper) (hparent : forest.parent id = some above)
    (other : NodeId) :
    (forest.detach id).prev other =
      if other = id then none
      else if forest.next id = some other then forest.prev id else forest.prev other := by
  have hmem : id ∈ forest.children above := h.mem_children.mpr hparent
  show (forest.detach id).neighbour Siblings.prev? other = _
  rw [neighbour_detach _ hparent, Siblings.prev?_erase (h.nodup above) hmem,
    ← prev_of_under hparent, ← next_of_under hparent]
  by_cases hid : other = id
  · simp [hid]
  · by_cases habove : forest.parent other = some above
    · simp [hid, habove, prev_of_under habove]
    · have hnext : forest.next id ≠ some other := fun hnext =>
        habove (h.under_of_next hparent hnext)
      simp only [hid, habove, hnext, if_false]
      rfl

end Forest

end HtmlTemplate
