import HtmlTemplate.Proofs.Dom.Descendants
import HtmlTemplate.Proofs.Dom.Run

/-!
# Taking out and moving many nodes

What becomes of the lists of children when nodes are taken out one after the other
(`WellFormed.children_run_detachSteps`), or moved one after the other to the end of one node
(`WellFormed.children_run_moveSteps`). In both cases the order in which the sibling links are mended
leaves no trace: each list loses the nodes in question, and the one list gets them at its end. Where
the lists within a node are the same, so is its subtree (`WellFormed.descendants_eq_of_children`).
-/

namespace HtmlTemplate

namespace Forest

variable {forest : Forest}

/-- Taking out a node takes it out of the one list in which it stands. -/
theorem Proper.children_detach (h : forest.Proper) (id target : NodeId) :
    (forest.detach id).children target = (forest.children target).filter (· ≠ id) := by
  have hkeep : id ∉ forest.children target →
      forest.children target = (forest.children target).filter (· ≠ id) := by
    intro hmem
    refine (List.filter_eq_self.mpr fun child hchild => decide_eq_true ?_).symm
    rintro rfl
    exact hmem hchild
  cases hparent : forest.parent id with
  | none =>
      simp only [Forest.detach, hparent]
      exact hkeep (h.not_mem_of_root hparent target)
  | some above =>
      simp only [Forest.detach, hparent, Function.update_apply]
      split
      · next heq =>
          rw [heq, (h.nodup above).erase_eq_filter]
          exact List.filter_congr fun child _ => Bool.eq_iff_iff.mpr (by simp)
      · next hne =>
          refine hkeep fun hmem => hne ?_
          exact Option.some.inj ((h.mem_children.mp hmem).symm.trans hparent)

/-- Adding at the end changes one list of children. -/
theorem children_append (forest : Forest) (above child target : NodeId) :
    (forest.append above child).children target =
      forest.children target ++ if target = above then [child] else [] := by
  simp only [append, place, Function.update_apply]
  split
  · next heq => rw [heq]
  · exact (List.append_nil _).symm

end Forest

/-- A step that puts nodes elsewhere and neither makes one nor changes what one says. -/
def Step.OnlyMoves : Step → Prop
  | .append .. | .insertBefore .. | .detach _ => True
  | .create _ | .appendText .. => False

namespace Dom

/-- The steps that take nodes out, one after the other. -/
def detachSteps (ids : List NodeId) : List Step :=
  ids.map fun id => .detach (some id)

variable {dom after : Dom} {steps : List Step} {ids : List NodeId} {id above child root : NodeId}

/-! ## Sizes and payloads -/

/-- Steps that only move nodes make no node. -/
theorem size_step_of_onlyMoves {step : Step} (h : step.OnlyMoves) :
    (step.apply dom).size = dom.size := by
  cases step with
  | append | insertBefore | detach => simp [Step.apply]
  | create | appendText => exact h.elim

/-- Steps that only move nodes keep every payload. -/
theorem payload?_step_of_onlyMoves {step : Step} (h : step.OnlyMoves) (id : NodeId) :
    (step.apply dom).payload? (some id) = dom.payload? (some id) := by
  cases step with
  | append parent child => exact payload?_append ..
  | insertBefore sibling node => exact payload?_insertBefore ..
  | detach link => exact payload?_detach ..
  | create | appendText => exact h.elim

/-- Moving nodes leaves their number and what they say as it was. -/
theorem run_of_onlyMoves (dom : Dom) (h : ∀ step ∈ steps, step.OnlyMoves) :
    (dom.run steps).size = dom.size ∧
      ∀ id, (dom.run steps).payload? (some id) = dom.payload? (some id) := by
  induction steps generalizing dom with
  | nil => exact ⟨rfl, fun _ => rfl⟩
  | cons step rest ih =>
      obtain ⟨hstep, hrest⟩ := List.forall_mem_cons.mp h
      obtain ⟨hsize, hpayload⟩ := ih (step.apply dom) hrest
      exact ⟨hsize.trans (size_step_of_onlyMoves hstep),
        fun id => (hpayload id).trans (payload?_step_of_onlyMoves hstep id)⟩

/-- Taking nodes out only moves nodes. -/
theorem onlyMoves_detachSteps (ids : List NodeId) :
    ∀ step ∈ detachSteps ids, step.OnlyMoves := by
  intro step hstep
  obtain ⟨id, -, rfl⟩ := List.mem_map.mp hstep
  trivial

/-- Taking nodes out and appending them elsewhere only moves nodes. -/
theorem onlyMoves_moveSteps (above : NodeId) (ids : List NodeId) :
    ∀ step ∈ moveSteps above ids, step.OnlyMoves := by
  intro step hstep
  obtain ⟨id, -, hstep⟩ := List.mem_flatMap.mp hstep
  rw [List.mem_cons, List.mem_singleton] at hstep
  rcases hstep with rfl | rfl <;> trivial

/-! ## Lists of children -/

/-- Leaving out one entry and then others is leaving them all out. -/
theorem filter_not_mem_cons (list : List NodeId) (id : NodeId) (ids : List NodeId) :
    (list.filter (· ≠ id)).filter (· ∉ ids) = list.filter (· ∉ id :: ids) := by
  rw [List.filter_filter]
  refine List.filter_congr fun child _ => ?_
  rw [← Bool.decide_and, decide_eq_decide, List.mem_cons, not_or, and_comm]

/-- A new node is no child, and has none. -/
theorem WellFormed.children_create (h : dom.WellFormed) (payload : Payload) (id : NodeId) :
    (dom.create payload).1.children (some id) = dom.children (some id) :=
  congrArg (·.children id) (h.stores.create payload).forest_eq

/-- Another payload changes no list of children. -/
theorem WellFormed.children_setPayload (h : dom.WellFormed) (id : NodeId) (payload : Payload)
    (target : NodeId) :
    (dom.update (some id) fun node => { node with payload }).children (some target) =
      dom.children (some target) :=
  congrArg (·.children target) (h.stores.setPayload id payload).forest_eq

/-- A node that is taken out is left out of every list of children. -/
theorem WellFormed.children_detach (h : dom.WellFormed) (id target : NodeId) :
    (dom.detach (some id)).children (some target) =
      (dom.children (some target)).filter (· ≠ id) :=
  (congrArg (·.children target) (h.stores.detach id).forest_eq).trans
    (h.proper.children_detach id target)

/-- A node that is appended comes behind the other children of its parent. -/
theorem WellFormed.children_append (h : dom.WellFormed)
    (hvalid : (Step.append above child).Valid dom) (target : NodeId) :
    (dom.append (some above) (some child)).children (some target) =
      dom.children (some target) ++ if target = above then [child] else [] :=
  (congrArg (·.children target) (h.stores.step hvalid).forest_eq).trans
    (dom.forest.children_append above child target)

/-- A node that is inserted comes right before its sibling, and all other lists of children stay. -/
theorem WellFormed.children_insertBefore (h : dom.WellFormed) {sibling node : NodeId}
    (hvalid : (Step.insertBefore sibling node).Valid dom)
    (habove : dom.parentOf sibling = some above) (target : NodeId) :
    (dom.insertBefore (some sibling) (some node)).children (some target) =
      if target = above then Siblings.insertBefore sibling node (dom.children (some above))
      else dom.children (some target) := by
  refine (congrArg (·.children target) (h.stores.step hvalid).forest_eq).trans ?_
  have hforest : dom.forest.parent sibling = some above := habove
  simp only [Step.onForest, Forest.insertBefore, hforest, Forest.place, Function.update_apply]
  rfl

/-- A node that is put before a child of `above` stands right before it, and the other children as
they did. -/
theorem WellFormed.children_insertBefore_middle (h : dom.WellFormed) {sibling node : NodeId}
    (hvalid : (Step.insertBefore sibling node).Valid dom)
    (habove : dom.parentOf sibling = some above) {front back : List NodeId}
    (hsplit : dom.children (some above) = front ++ sibling :: back) :
    (dom.insertBefore (some sibling) (some node)).children (some above) =
      front ++ node :: sibling :: back := by
  have hnodup := h.nodup_children above
  rw [hsplit, List.nodup_middle, List.nodup_cons] at hnodup
  have hfront : sibling ∉ front := fun hmem => hnodup.1 (List.mem_append_left back hmem)
  rw [h.children_insertBefore hvalid habove, if_pos rfl, hsplit,
    Siblings.insertBefore_middle hfront]

/-- Nodes may be taken out in any order, whether they are in the tree or not. -/
theorem validRun_detachSteps (dom : Dom) (ids : List NodeId) : dom.ValidRun (detachSteps ids) := by
  induction ids generalizing dom with
  | nil => trivial
  | cons id ids ih => exact ⟨trivial, ih _⟩

/-- Nodes that are taken out are in no list any more, and the others stand as they did. -/
theorem WellFormed.children_run_detachSteps (h : dom.WellFormed) (ids : List NodeId)
    (target : NodeId) :
    (dom.run (detachSteps ids)).children (some target) =
      (dom.children (some target)).filter (· ∉ ids) := by
  induction ids generalizing dom with
  | nil => exact (List.filter_eq_self.mpr (by simp)).symm
  | cons id ids ih =>
      have hstep : (dom.detach (some id)).WellFormed := (h.stores.detach id).wellFormed
      show ((dom.detach (some id)).run (detachSteps ids)).children (some target) = _
      rw [ih hstep, h.children_detach, filter_not_mem_cons]

/-- Nodes that are moved to the end of `above` are in no other list any more and stand at the end of
this one, in their order. Nodes of `above` itself may be among them. -/
theorem WellFormed.children_run_moveSteps (h : dom.WellFormed)
    (hvalid : dom.ValidRun (moveSteps above ids)) (hnodup : ids.Nodup) (target : NodeId) :
    (dom.run (moveSteps above ids)).children (some target) =
      (dom.children (some target)).filter (· ∉ ids) ++ if target = above then ids else [] := by
  induction ids generalizing dom with
  | nil =>
      rw [ite_self, List.append_nil]
      exact (List.filter_eq_self.mpr (by simp)).symm
  | cons id ids ih =>
      obtain ⟨hdetach, happend, hrest⟩ := hvalid
      obtain ⟨hid, hnodup⟩ := List.nodup_cons.mp hnodup
      have hdetached : (dom.detach (some id)).WellFormed := (h.stores.step hdetach).wellFormed
      have hmoved : ((dom.detach (some id)).append (some above) (some id)).WellFormed :=
        (hdetached.stores.step happend).wellFormed
      show (((dom.detach (some id)).append (some above) (some id)).run
        (moveSteps above ids)).children (some target) = _
      rw [ih hmoved hrest hnodup, hdetached.children_append happend, h.children_detach,
        List.filter_append, filter_not_mem_cons, List.append_assoc]
      congr 1
      -- The first node stays at the end of its new list, as it is not moved again.
      split
      · simp [hid]
      · rfl

/-! ## Subtrees with the same lists -/

/-- A subtree in which every node has the children that it has in another document is walked through
the same there. -/
theorem WellFormed.descendants_eq_of_children (h : dom.WellFormed) (hafter : after.WellFormed)
    (hsize : after.size = dom.size) (hroot : root < dom.size)
    (hchildren : ∀ id, Within dom.parentOf id root →
      after.children (some id) = dom.children (some id)) :
    after.descendants (some root) = dom.descendants (some root) := by
  refine h.induction_on (motive := fun root => (∀ id, Within dom.parentOf id root →
    after.children (some id) = dom.children (some id)) →
    after.descendants (some root) = dom.descendants (some root)) hroot ?_ hchildren
  intro root hroot ih hchildren
  rw [hafter.descendants_eq (hsize ▸ hroot), h.descendants_eq hroot, hchildren root .refl]
  refine congrArg (root :: ·) (List.flatMap_congr fun child hchild => ?_)
  exact ih child hchild fun id hid => hchildren id (hid.tail (h.mem_children.mp hchild))

/-- A node has its links from where it and its siblings stand. -/
theorem WellFormed.get?_eq_of_children (h : dom.WellFormed) (hafter : after.WellFormed)
    (hpayload : after.payload? (some id) = dom.payload? (some id))
    (hchildren : after.children (some id) = dom.children (some id))
    (hparent : dom.parentOf id = some above)
    (hsiblings : after.children (some above) = dom.children (some above)) :
    after.get? (some id) = dom.get? (some id) := by
  have hafterParent : after.parentOf id = some above :=
    hafter.mem_children.mp (hsiblings ▸ h.mem_children.mpr hparent)
  -- The neighbours of a node are looked up in the list of its parent.
  have hnext : after.forest.next id = dom.forest.next id := by
    rw [Forest.next_of_under (show after.forest.parent id = _ from hafterParent),
      Forest.next_of_under (show dom.forest.parent id = _ from hparent)]
    exact congrArg (Siblings.next? id) hsiblings
  have hprev : after.forest.prev id = dom.forest.prev id := by
    rw [Forest.prev_of_under (show after.forest.parent id = _ from hafterParent),
      Forest.prev_of_under (show dom.forest.parent id = _ from hparent)]
    exact congrArg (Siblings.prev? id) hsiblings
  rw [h.stores.get?, hafter.stores.get?, Forest.node, Forest.node, payloads_forest,
    payloads_forest, hpayload, hnext, hprev]
  simp only [forest, hparent, hafterParent, hchildren]

end Dom

end HtmlTemplate
