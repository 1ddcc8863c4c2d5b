import HtmlTemplate.Proofs.Dom.Run
import HtmlTemplate.Proofs.Dom.Subtree
import HtmlTemplate.Proofs.Draft.Attributes

/-!
# Edits outside a subtree

Every operation writes at a few nodes that it finds by following links. `Undisturbed` says of a
document that was edited that nothing was written below `root` so far and that no link from outside
leads below `root`, save those to children of `root` that `root` itself holds. This is what makes
the next edit stay outside too (`Undisturbed.edit`): it needs no more than that the edit begins
outside. Whether the document around the subtree is still well-formed does not matter.
-/

namespace HtmlTemplate

/-- A call of an operation on a document, or one that adds attributes to an element. -/
inductive Edit where
  | step (call : Step)
  | addAttributes (element : NodeId) (attributes : List Attribute)

namespace Edit

/-- The document after an edit. -/
def apply (dom : Dom) : Edit → Dom
  | .step call => call.apply dom
  | .addAttributes element attributes =>
      (Draft.addMissingAttributes { dom } (some element) attributes).dom

/-- An edit acts outside the subtree of `root`: what it puts somewhere stands nowhere yet, and the
node whose children or whose payload it changes is not `root` or below it. The edit may move `root`
itself. -/
def Outside (dom : Dom) (root : NodeId) : Edit → Prop
  | .step (.create _) => True
  | .step (.append parent child) =>
      parent ∉ dom.descendants (some root) ∧ dom.parentOf child = none
  | .step (.insertBefore sibling node) =>
      (∀ above ∈ dom.parentOf sibling, above ∉ dom.descendants (some root)) ∧
        dom.parentOf node = none
  | .step (.detach link) => ∀ above ∈ dom.parent link, above ∉ dom.descendants (some root)
  | .step (.appendText parent _) =>
      parent ∉ dom.descendants (some root) ∧
        ¬ (dom.lastChild (some parent) = some root ∧ dom.kind? (some root) = some .text)
  | .addAttributes element _ => element ∉ dom.descendants (some root)

end Edit

namespace Dom

/-- The document after a list of edits. -/
def edit (dom : Dom) (edits : List Edit) : Dom :=
  edits.foldl Edit.apply dom

/-- Each edit of a list acts outside the subtree of `root`, in the document that the edits before it
leave. -/
def OutsideRun (root : NodeId) (dom : Dom) : List Edit → Prop
  | [] => True
  | edit :: rest => edit.Outside dom root ∧ OutsideRun root (edit.apply dom) rest

/-- A link does not lead to a proper descendant of `root` in `start`. -/
def LeadsOff (start : Dom) (root : NodeId) (link : Link) : Prop :=
  ∀ id ∈ link, ¬ Below start.parentOf id root

/-- The links by which operations find the next node to write at lead off the subtree. The last
child of `root` is one of its own. -/
structure Apart (start : Dom) (root id : NodeId) (node : Node) : Prop where
  prevSibling : start.LeadsOff root node.prevSibling
  nextSibling : start.LeadsOff root node.nextSibling
  lastChild : id ≠ root → start.LeadsOff root node.lastChild

/-- The nodes below `root` are still those of `start`, `root` has kept its payload and its first
child, and no node outside has got a link to a node below `root`. -/
structure Undisturbed (start : Dom) (root : NodeId) (dom : Dom) : Prop where
  size_le : start.size ≤ dom.size
  below : ∀ id, Below start.parentOf id root → dom.get? (some id) = start.get? (some id)
  payload : dom.payload? (some root) = start.payload? (some root)
  firstChild : dom.firstChild (some root) = start.firstChild (some root)
  apart : ∀ id, ¬ Below start.parentOf id root → ∀ node, dom.get? (some id) = some node →
    start.Apart root id node

variable {start dom : Dom} {root id : NodeId} {link : Link}

/-- A link that names nothing leads off every subtree. -/
theorem leadsOff_none : start.LeadsOff root none :=
  fun _ hid => by cases hid

/-- A link that leads off the subtree is not one to a node below its root. -/
theorem LeadsOff.ne (h : start.LeadsOff root link) (hid : Below start.parentOf id root) :
    link ≠ some id :=
  fun heq => h id heq hid

/-- A link leads off the subtree exactly when the node that it names is not below the root. -/
theorem leadsOff_some : start.LeadsOff root (some id) ↔ ¬ Below start.parentOf id root := by
  simp [LeadsOff]

/-- At first no link from outside leads below a node, since what leads below it starts there. -/
theorem WellFormed.undisturbed (h : start.WellFormed) (root : NodeId) :
    start.Undisturbed root start where
  size_le := Nat.le_refl _
  below _ _ := rfl
  payload := rfl
  firstChild := rfl
  apart := by
    intro id hid node hnode
    have hsibling : ∀ {other}, start.parentOf other = start.parentOf id →
        ¬ Below start.parentOf other root := by
      intro other hsame hbelow
      obtain ⟨above, habove, hwithin⟩ := Relation.TransGen.head'_iff.mp hbelow
      exact hid (Relation.TransGen.head' (hsame.symm.trans habove) hwithin)
    rw [h.stores.get?] at hnode
    obtain ⟨payload, -, rfl⟩ := Option.map_eq_some_iff.mp hnode
    refine ⟨fun other hother => ?_, fun other hother => ?_, fun hne other hother hbelow => ?_⟩
    · obtain ⟨above, habove, hprev⟩ := Option.bind_eq_some_iff.mp hother
      exact hsibling ((h.mem_children.mp (Siblings.mem_of_prev? hprev)).trans habove.symm)
    · obtain ⟨above, habove, hnext⟩ := Option.bind_eq_some_iff.mp hother
      exact hsibling ((h.mem_children.mp (Siblings.mem_of_next? hnext)).trans habove.symm)
    -- A last child below `root` has its parent within `root`, and `id` is that parent.
    · have hunder : start.parentOf other = some id :=
        h.mem_children.mp (List.mem_of_mem_getLast? hother)
      rcases Relation.reflTransGen_iff_eq_or_transGen.mp
        ((below_iff_of_under hunder).mp hbelow) with heq | hbelow
      · exact hne heq.symm
      · exact hid hbelow

/-- What is read below `root` is as it was. -/
theorem Undisturbed.sameBelow (h : start.Undisturbed root dom) : start.SameBelow dom root where
  size_le := h.size_le
  payload_eq id hid := by
    rcases Relation.reflTransGen_iff_eq_or_transGen.mp hid with rfl | hbelow
    · exact h.payload
    · rw [payload?, payload?, h.below id hbelow]
  firstChild_eq id hid := by
    rcases Relation.reflTransGen_iff_eq_or_transGen.mp hid with rfl | hbelow
    · exact h.firstChild
    · rw [Dom.firstChild, Dom.firstChild, h.below id hbelow]
  nextSibling_eq id hbelow := by rw [Dom.nextSibling, Dom.nextSibling, h.below id hbelow]

/-! ## What an edit writes -/

/-- An edit that makes `change id` of every node keeps the subtree, if it makes of the nodes below
`root` what they are, of `root` a node with the same payload and first child, and puts no link that
leads below `root` anywhere else. -/
theorem Undisturbed.map (h : start.Undisturbed root dom) {after : Dom}
    {change : NodeId → Node → Node} (hsize : after.size = dom.size)
    (hget : ∀ id, after.get? (some id) = (dom.get? (some id)).map (change id))
    (hbelow : ∀ id, Below start.parentOf id root → ∀ node, change id node = node)
    (hroot : ∀ node, (change root node).payload = node.payload ∧
      (change root node).firstChild = node.firstChild)
    (hapart : ∀ id node, start.Apart root id node → start.Apart root id (change id node)) :
    start.Undisturbed root after where
  size_le := hsize ▸ h.size_le
  below id hid := by
    rw [hget, ← h.below id hid]
    exact (congrArg (Option.map · _) (funext (hbelow id hid))).trans (congrFun Option.map_id _)
  payload := by
    rw [← h.payload, payload?, payload?, hget, Option.map_map]
    exact congrArg (Option.map · _) (funext fun node => (hroot node).1)
  firstChild := by
    rw [← h.firstChild, Dom.firstChild, Dom.firstChild, hget, Option.bind_map]
    exact congrArg (Option.bind _) (funext fun node => (hroot node).2)
  apart id hid node hnode := by
    rw [hget] at hnode
    obtain ⟨old, hold, rfl⟩ := Option.map_eq_some_iff.mp hnode
    exact hapart id old (h.apart id hid old hold)

/-- An edit of the payload of a node outside the subtree keeps the subtree. -/
theorem Undisturbed.changePayload (h : start.Undisturbed root dom)
    (hlink : ∀ id ∈ link, ¬ Within start.parentOf id root) (change : Payload → Payload) :
    start.Undisturbed root
      (dom.update link fun node => { node with payload := change node.payload }) := by
  refine h.map (size_update ..) (get?_update_map dom link _) ?_ ?_ ?_
  · intro id hid node
    have hne : link ≠ some id := fun heq => hlink id heq hid.to_reflTransGen
    rw [if_neg hne]
  · intro node
    have hne : link ≠ some root := fun heq => hlink root heq .refl
    rw [if_neg hne]
    exact ⟨rfl, rfl⟩
  · intro id node hnode
    split_ifs
    · exact ⟨hnode.prevSibling, hnode.nextSibling, hnode.lastChild⟩
    · exact hnode

/-- A node that is added is not below any other. -/
theorem Undisturbed.create (h : start.Undisturbed root dom) (hroot : root < start.size)
    (payload : Payload) : start.Undisturbed root (dom.create payload).1 := by
  have hold : ∀ id, id < start.size →
      (dom.create payload).1.get? (some id) = dom.get? (some id) := by
    intro id hid
    have hne : (some id : Link) ≠ some dom.size := fun heq =>
      Nat.not_lt.mpr h.size_le (Option.some.inj heq ▸ hid)
    rw [get?_create, if_neg hne]
  refine ⟨?_, fun id hid => ?_, ?_, ?_, fun id hid node hnode => ?_⟩
  · exact Nat.le_trans h.size_le (by simp)
  · rw [hold id (lt_of_within hroot hid.to_reflTransGen), h.below id hid]
  · rw [payload?, hold root hroot]
    exact h.payload
  · rw [Dom.firstChild, hold root hroot]
    exact h.firstChild
  · rw [get?_create] at hnode
    split at hnode
    · cases hnode
      exact ⟨leadsOff_none, leadsOff_none, fun _ => leadsOff_none⟩
    · exact h.apart id hid node hnode

/-! ## Edits that begin outside -/

/-- The link of a node outside to its last child leads off the subtree. -/
theorem Undisturbed.leadsOff_lastChild (h : start.Undisturbed root dom)
    (hid : ¬ Within start.parentOf id root) :
    start.LeadsOff root (dom.lastChild (some id)) := by
  intro last hlast
  obtain ⟨node, hnode, hlast⟩ := Option.bind_eq_some_iff.mp hlast
  have hbelow : ¬ Below start.parentOf id root := fun hbelow => hid hbelow.to_reflTransGen
  have hne : id ≠ root := fun heq => hid (heq ▸ .refl)
  exact (h.apart id hbelow node hnode).lastChild hne last hlast

/-- A node whose parent, if it has one, is outside the subtree is not below `root`. -/
theorem Undisturbed.leadsOff_of_parent (h : start.Undisturbed root dom)
    (hparent : ∀ above ∈ dom.parentOf id, ¬ Within start.parentOf above root) :
    start.LeadsOff root (some id) := by
  rw [leadsOff_some]
  intro hbelow
  obtain ⟨above, habove, hwithin⟩ := Relation.TransGen.head'_iff.mp hbelow
  have hsame : dom.parentOf id = start.parentOf id := by
    rw [parentOf, parentOf, parent, parent, h.below id hbelow]
  exact hparent above (hsame.trans habove) hwithin

/-- Appending to a node outside leaves the subtree undisturbed, even if the root itself is
appended. -/
theorem Undisturbed.append (h : start.Undisturbed root dom) {parent child : NodeId}
    (hparent : ¬ Within start.parentOf parent root)
    (hchild : start.LeadsOff root (some child)) :
    start.Undisturbed root (dom.append (some parent) (some child)) := by
  have hlast := h.leadsOff_lastChild hparent
  have hparentOff : start.LeadsOff root (some parent) :=
    leadsOff_some.mpr fun hbelow => hparent hbelow.to_reflTransGen
  have hne : (some parent : Link) ≠ some root := fun heq => hparent (Option.some.inj heq ▸ .refl)
  -- Written are the child, the parent, and the last child of the parent. The parent is not `root`,
  -- and all that the other two get is a new place among siblings.
  refine h.map (size_append ..) (get?_append dom _ _) ?_ ?_ ?_
  · intro id hid node
    simp only [hchild.ne hid, hlast.ne hid, hparentOff.ne hid, if_false]
  · intro node
    simp only [hne, if_false, and_self]
  · intro id node hnode
    refine ⟨?_, ?_, fun hid => ?_⟩
    · show start.LeadsOff root (if _ then _ else _)
      split_ifs
      · exact hlast
      · exact hnode.prevSibling
    · show start.LeadsOff root (if _ then _ else if _ then _ else _)
      split_ifs
      · exact hchild
      · exact leadsOff_none
      · exact hnode.nextSibling
    · show start.LeadsOff root (if _ then _ else _)
      split_ifs
      · exact hchild
      · exact hnode.lastChild hid

/-- Where a node stands, when that is outside the subtree: its siblings and its parent are outside
too. -/
theorem Undisturbed.place_outside (h : start.Undisturbed root dom)
    (hparent : ∀ above ∈ dom.parentOf id, ¬ Within start.parentOf above root) {place : Node}
    (hplace : dom.get? (some id) = some place) :
    start.LeadsOff root (some id) ∧ start.Apart root id place ∧
      ∀ {above}, Within start.parentOf above root → place.parent ≠ some above := by
  have hoff := h.leadsOff_of_parent hparent
  refine ⟨hoff, h.apart id (leadsOff_some.mp hoff) place hplace, fun hwithin habove => ?_⟩
  refine hparent _ ?_ hwithin
  rw [parentOf, parent, hplace]
  exact habove

/-- Inserting among the children of a node outside leaves the subtree undisturbed. -/
theorem Undisturbed.insertBefore (h : start.Undisturbed root dom) {sibling node : NodeId}
    (hsibling : ∀ above ∈ dom.parentOf sibling, ¬ Within start.parentOf above root)
    (hnode : start.LeadsOff root (some node)) :
    start.Undisturbed root (dom.insertBefore (some sibling) (some node)) := by
  cases hplace : dom.get? (some sibling) with
  | none =>
      rw [insertBefore_of_missing hplace]
      exact h
  | some place =>
      obtain ⟨hoff, hbeside, habove⟩ := h.place_outside hsibling hplace
      -- The parent gets a new first child, so it must not even be `root`.
      refine h.map (size_insertBefore ..) (get?_insertBefore dom hplace _) ?_ ?_ ?_
      · intro id hid node
        simp only [hnode.ne hid, hoff.ne hid, hbeside.prevSibling.ne hid,
          habove hid.to_reflTransGen, and_false, if_false]
      · intro node
        simp only [habove .refl, and_false, if_false, and_self]
      · intro id node hold
        refine ⟨?_, ?_, hold.lastChild⟩
        · show start.LeadsOff root (if _ then _ else if _ then _ else _)
          split_ifs
          · exact hnode
          · exact hbeside.prevSibling
          · exact hold.prevSibling
        · show start.LeadsOff root (if _ then _ else if _ then _ else _)
          split_ifs
          · exact hnode
          · exact hoff
          · exact hold.nextSibling

/-- Taking out a child of a node outside leaves the subtree undisturbed. -/
theorem Undisturbed.detach (h : start.Undisturbed root dom)
    (hparent : ∀ above ∈ dom.parentOf id, ¬ Within start.parentOf above root) :
    start.Undisturbed root (dom.detach (some id)) := by
  cases hplace : dom.get? (some id) with
  | none =>
      rw [detach_of_missing hplace]
      exact h
  | some place =>
      obtain ⟨hoff, hbeside, habove⟩ := h.place_outside hparent hplace
      refine h.map (size_detach ..) (get?_detach dom hplace) ?_ ?_ ?_
      · intro id hid node
        simp only [hoff.ne hid, hbeside.prevSibling.ne hid, hbeside.nextSibling.ne hid,
          habove hid.to_reflTransGen, and_false, if_false]
      · intro node
        simp only [habove .refl, and_false, if_false, and_self]
      · intro other node hold
        refine ⟨?_, ?_, fun hne => ?_⟩
        · show start.LeadsOff root (if _ then _ else if _ then _ else _)
          split_ifs
          · exact leadsOff_none
          · exact hbeside.prevSibling
          · exact hold.prevSibling
        · show start.LeadsOff root (if _ then _ else if _ then _ else _)
          split_ifs
          · exact leadsOff_none
          · exact hbeside.nextSibling
          · exact hold.nextSibling
        · show start.LeadsOff root (if _ then _ else _)
          split_ifs
          · exact hbeside.prevSibling
          · exact hold.lastChild hne

/-- Text that is put at the end of a node outside the subtree goes to a node outside it, unless
`root` is the text that it would be added to. -/
theorem Undisturbed.appendText (h : start.Undisturbed root dom) (hroot : root < start.size)
    {parent : NodeId} (hparent : ¬ Within start.parentOf parent root)
    (hlast : ¬ (dom.lastChild (some parent) = some root ∧ dom.kind? (some root) = some .text))
    (text : String) : start.Undisturbed root (dom.appendText (some parent) text) := by
  by_cases htext : ∃ old, dom.payload? (dom.lastChild (some parent)) = some (.text old)
  · obtain ⟨old, hold⟩ := htext
    rw [appendText_of_text hold]
    refine h.changePayload (fun id hid hwithin => ?_) fun _ => .text (old ++ text)
    rcases Relation.reflTransGen_iff_eq_or_transGen.mp hwithin with rfl | hbelow
    · have hkind : dom.kind? (some root) = some .text := by
        rw [kind?_eq, ← Option.mem_def.mp hid, hold]
        rfl
      exact hlast ⟨hid, hkind⟩
    · exact h.leadsOff_lastChild hparent id hid hbelow
  · rw [appendText_of_no_text (not_exists.mp htext)]
    refine (h.create hroot (.text text)).append hparent (leadsOff_some.mpr fun hbelow => ?_)
    exact Nat.not_lt.mpr h.size_le (lt_of_within hroot hbelow.to_reflTransGen)

/-- The nodes that are walked through from `root` are still those within `root` at the start. -/
theorem Undisturbed.mem_descendants (h : start.Undisturbed root dom) (hwell : start.WellFormed)
    (hroot : root < start.size) :
    id ∈ dom.descendants (some root) ↔ Within start.parentOf id root := by
  rw [h.sameBelow.descendants_eq hwell hroot, hwell.mem_descendants hroot]

/-- An edit that acts outside the subtree leaves it undisturbed. -/
theorem Undisturbed.edit (h : start.Undisturbed root dom) (hwell : start.WellFormed)
    (hroot : root < start.size) {edit : Edit} (houtside : edit.Outside dom root) :
    start.Undisturbed root (edit.apply dom) := by
  have hmem : ∀ {id}, id ∉ dom.descendants (some root) ↔ ¬ Within start.parentOf id root :=
    not_congr (h.mem_descendants hwell hroot)
  have halone : ∀ {id}, dom.parentOf id = none → start.LeadsOff root (some id) := by
    intro id hid
    refine h.leadsOff_of_parent fun above habove => ?_
    rw [hid] at habove
    cases habove
  cases edit with
  | step call =>
      cases call with
      | create payload => exact h.create hroot payload
      | append parent child => exact h.append (hmem.mp houtside.1) (halone houtside.2)
      | insertBefore sibling node =>
          exact h.insertBefore (fun above habove => hmem.mp (houtside.1 above habove))
            (halone houtside.2)
      | detach link =>
          cases link with
          | none => exact h
          | some id => exact h.detach fun above habove => hmem.mp (houtside above habove)
      | appendText parent text => exact h.appendText hroot (hmem.mp houtside.1) houtside.2 text
  | addAttributes element attributes =>
      rw [Edit.apply, Draft.dom_addMissingAttributes]
      refine h.changePayload (fun id hid => ?_) _
      cases hid
      exact hmem.mp houtside

/-- So does a run of edits. -/
theorem Undisturbed.run (h : start.Undisturbed root dom) (hwell : start.WellFormed)
    (hroot : root < start.size) {edits : List Edit} (houtside : OutsideRun root dom edits) :
    start.Undisturbed root (dom.edit edits) := by
  -- What is outside is said of the document that the edits before leave, so the document varies and
  -- the one at the start stays.
  induction edits generalizing dom with
  | nil => exact h
  | cons edit rest ih => exact ih (h.edit hwell hroot houtside.1) houtside.2

end Dom

end HtmlTemplate
