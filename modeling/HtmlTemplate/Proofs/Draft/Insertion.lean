import HtmlTemplate.Draft
import HtmlTemplate.Proofs.Dom.Moves

/-!
# Nodes put before a sibling

`Draft.insertBefore` links a node in before a sibling and leaves the place where the node stood as
it is. A node that stood nowhere is moved there, and nothing else changes. A node that still has a
parent is left behind in its old list, and no document in which that happens is well-formed
(`WellFormed.parentOf_of_insertBefore`); it has to be taken out first. `insertBefore_moves` says
both.
-/

namespace HtmlTemplate

namespace Dom

/-- A document is another one with `node` moved to the place right before `sibling`, a child of
`above`. -/
structure MovedBefore (dom after : Dom) (node sibling above : NodeId) : Prop where
  wellFormed : after.WellFormed
  /-- The node stands right before the sibling, and the other children of `above` as they did. -/
  target : ∃ front back, (dom.children (some above)).filter (· ≠ node) = front ++ sibling :: back ∧
    after.children (some above) = front ++ node :: sibling :: back
  /-- In every other list the node is missing, and the others stand as they did. -/
  others : ∀ other, other ≠ above →
    after.children (some other) = (dom.children (some other)).filter (· ≠ node)
  parents : after.parentOf = Function.update dom.parentOf node (some above)
  size : after.size = dom.size
  payloads : ∀ id, after.payload? (some id) = dom.payload? (some id)

variable {dom : Dom} {sibling node above id : NodeId} {place : Node}

/-! ## Nodes that stand nowhere -/

/-- Taking out a node that stands nowhere changes nothing. -/
theorem WellFormed.detach_of_root (h : dom.WellFormed) (hroot : dom.parentOf id = none) :
    dom.detach (some id) = dom := by
  have hsame : dom.forest.detach id = dom.forest := by
    have hforest : dom.forest.parent id = none := hroot
    simp only [Forest.detach, hforest]
  have hafter := h.stores.detach id
  rw [hsame] at hafter
  exact h.stores.unique hafter

/-- A node that is taken out may be put before a node that is not within it. -/
theorem valid_insertBefore_detach (habove : dom.parentOf sibling = some above)
    (hnode : node < dom.size) (houtside : ¬ Within dom.parentOf sibling node) :
    (dom.detach (some node)).parentOf sibling = some above ∧
      (Step.insertBefore sibling node).Valid (dom.detach (some node)) := by
  have hne : sibling ≠ node := by
    rintro rfl
    exact houtside .refl
  have hsize := size_detach dom (some node)
  have hparent : (dom.detach (some node)).parentOf sibling = some above := by
    rw [parentOf_detach, Function.update_of_ne hne, habove]
  refine ⟨hparent, hsize ▸ lt_of_under habove, hsize ▸ hnode, hparent ▸ Option.some_ne_none above,
    ?_, ?_⟩
  · rw [parentOf_detach, Function.update_self]
  · rw [parentOf_detach]
    exact fun hbelow => houtside (Within.of_release hbelow.to_reflTransGen)

/-- A node that is taken out and put before a sibling is moved there, wherever it stood. -/
theorem WellFormed.movedBefore (h : dom.WellFormed) (habove : dom.parentOf sibling = some above)
    (hnode : node < dom.size) (houtside : ¬ Within dom.parentOf sibling node) :
    dom.MovedBefore ((dom.detach (some node)).insertBefore (some sibling) (some node))
      node sibling above := by
  obtain ⟨hsibling, hvalid⟩ := valid_insertBefore_detach habove hnode houtside
  have hdetached : (dom.detach (some node)).WellFormed := (h.stores.detach node).wellFormed
  refine ⟨(hdetached.stores.step hvalid).wellFormed, ?_, ?_, ?_, by simp, ?_⟩
  · obtain ⟨front, back, hsplit⟩ := List.append_of_mem (hdetached.mem_children.mpr hsibling)
    exact ⟨front, back, (h.children_detach node above).symm.trans hsplit,
      hdetached.children_insertBefore_middle hvalid hsibling hsplit⟩
  · intro other hother
    rw [hdetached.children_insertBefore hvalid hsibling, if_neg hother, h.children_detach]
  · rw [parentOf_insertBefore hsibling hvalid.2.1, parentOf_detach, Function.update_idem]
  · intro id
    rw [payload?_insertBefore, payload?_detach]

/-! ## Nodes that stand somewhere -/

/-- A sibling that leads to a node leads to it as before when the node is linked in elsewhere. -/
theorem WellFormed.nextSibling_insertBefore_of_next (h : dom.WellFormed)
    (hplace : dom.get? (some sibling) = some place)
    (hnext : dom.nextSibling (some id) = some node) :
    (dom.insertBefore (some sibling) (some node)).nextSibling (some id) = some node := by
  have hne : (some node : Link) ≠ some id := by
    intro heq
    exact h.nextSibling_ne_self id (hnext.trans heq)
  rw [nextSibling_insertBefore (lt_of_link hnext) _ _ hplace, if_neg hne, hnext, ite_self]

/-- Where a node that still has a parent is linked in before a sibling, its old neighbours or its
old parent lead to it as well as the new ones. No document with such links is well-formed. -/
theorem WellFormed.parentOf_of_insertBefore (h : dom.WellFormed)
    (habove : dom.parentOf sibling = some above) (hnode : node < dom.size) (hne : sibling ≠ node)
    (hafter : (dom.insertBefore (some sibling) (some node)).WellFormed) :
    dom.parentOf node = none := by
  by_contra hattached
  obtain ⟨old, hold⟩ := Option.ne_none_iff_exists'.mp hattached
  obtain ⟨place, hplace, -⟩ := Option.bind_eq_some_iff.mp habove
  have hparent : (dom.insertBefore (some sibling) (some node)).parentOf node = some above := by
    rw [parentOf_insertBefore habove hnode, Function.update_self]
  have hprev : (dom.insertBefore (some sibling) (some node)).prevSibling (some node) =
      dom.prevSibling (some sibling) := by
    rw [prevSibling_insertBefore hnode _ _ hplace, if_neg (fun heq => hne (Option.some.inj heq)),
      if_pos rfl, prevSibling, hplace, Option.bind_some]
  obtain ⟨hsame, hfirst⟩ := h.place_of_led_to hafter hold
    (fun before hnext => h.nextSibling_insertBefore_of_next hplace hnext)
    fun hfirst => by rw [firstChild_insertBefore (lt_of_link hfirst) _ _ hplace, hfirst, ite_self]
  -- So the node stands where the sibling stands, behind the same node or as the first child.
  rw [hprev] at hsame
  cases hbefore : dom.prevSibling (some node) with
  | some before =>
      have hnode := h.nextSibling_eq_some_iff.mpr hbefore
      have hsibling := h.nextSibling_eq_some_iff.mpr (hsame.trans hbefore)
      exact hne (Option.some.inj (hsibling.symm.trans hnode))
  | none =>
      cases Option.some.inj (hparent.symm.trans (hfirst hbefore))
      have hnode := h.firstChild_eq_some_iff.mpr ⟨hold, hbefore⟩
      have hsibling := h.firstChild_eq_some_iff.mpr ⟨habove, hsame.trans hbefore⟩
      exact hne (Option.some.inj (hsibling.symm.trans hnode))

end Dom

namespace Draft

open Dom

/-- A node that stands nowhere is moved right before the sibling. One that has a parent has to be
taken out first: put there at once, it leaves a document that is not well-formed. -/
theorem insertBefore_moves {draft : Draft} (h : draft.dom.WellFormed) {sibling node above : NodeId}
    (habove : draft.dom.parentOf sibling = some above) (hnode : node < draft.dom.size)
    (houtside : ¬ Within draft.dom.parentOf sibling node) :
    let placed := draft.insertBefore (some sibling) (.node (some node))
    let moved := (draft.detach (some node)).insertBefore (some sibling) (.node (some node))
    (placed.dom.WellFormed ↔ draft.dom.parentOf node = none) ∧
      (draft.dom.parentOf node = none → draft.dom.MovedBefore placed.dom node sibling above) ∧
      draft.dom.MovedBefore moved.dom node sibling above := by
  intro placed moved
  have hmoved : draft.dom.MovedBefore moved.dom node sibling above :=
    h.movedBefore habove hnode houtside
  have hplaced : draft.dom.parentOf node = none →
      draft.dom.MovedBefore placed.dom node sibling above := by
    intro hroot
    have hsame : moved.dom = placed.dom := by
      show (draft.dom.detach (some node)).insertBefore (some sibling) (some node) = _
      rw [h.detach_of_root hroot]
      rfl
    exact hsame ▸ hmoved
  have hne : sibling ≠ node := by
    rintro rfl
    exact houtside .refl
  exact ⟨⟨h.parentOf_of_insertBefore habove hnode hne, fun hroot => (hplaced hroot).wellFormed⟩,
    hplaced, hmoved⟩

/-- The steps that make two lists of one item each, and a comment that stands nowhere. -/
def itemSteps : List Step :=
  [.create (.element (.html "ul") []), .append 0 1, .create (.element (.html "ol") []),
    .append 0 2, .create (.element (.html "li") []), .append 1 3,
    .create (.element (.html "li") []), .append 2 4, .create (.comment "second")]

/-- The two lists are built by valid steps. -/
theorem validRun_itemSteps : Dom.empty.ValidRun itemSteps :=
  validRun_of_check (by decide)

/-- The comment is put before the item of the second list, and so is the item of the first list once
it is taken out. -/
theorem insertBefore_moves_item :
    let draft : Draft := { dom := Dom.empty.run itemSteps }
    draft.dom.WellFormed ∧ draft.dom.parentOf 4 = some 2 ∧ 3 < draft.dom.size ∧
      5 < draft.dom.size ∧ ¬ Within draft.dom.parentOf 4 3 ∧ ¬ Within draft.dom.parentOf 4 5 ∧
      draft.dom.parentOf 5 = none ∧
      draft.dom.MovedBefore (draft.insertBefore (some 4) (.node (some 5))).dom 5 4 2 ∧
      draft.dom.MovedBefore
        ((draft.detach (some 3)).insertBefore (some 4) (.node (some 3))).dom 3 4 2 := by
  intro draft
  have hwell : draft.dom.WellFormed := wellFormed_empty.run validRun_itemSteps
  have habove : draft.dom.parentOf 4 = some 2 := by decide
  have hitem : ¬ Within draft.dom.parentOf 4 3 :=
    not_within_of_clears (show clears draft.dom.parentOf 6 4 3 = true by decide)
  have hcomment : ¬ Within draft.dom.parentOf 4 5 :=
    not_within_of_clears (show clears draft.dom.parentOf 6 4 5 = true by decide)
  have hroot : draft.dom.parentOf 5 = none := by decide
  exact ⟨hwell, habove, by decide, by decide, hitem, hcomment, hroot,
    (insertBefore_moves hwell habove (by decide) hcomment).2.1 hroot,
    (insertBefore_moves hwell habove (by decide) hitem).2.2⟩

/-- Put before the item of the second list at once, the item of the first list stays in its old list
too. -/
theorem insertBefore_leaves_behind :
    let draft : Draft := { dom := Dom.empty.run itemSteps }
    let after := (draft.insertBefore (some 4) (.node (some 3))).dom
    draft.dom.WellFormed ∧ draft.dom.parentOf 4 = some 2 ∧ 3 < draft.dom.size ∧
      ¬ Within draft.dom.parentOf 4 3 ∧ draft.dom.children (some 1) = [3] ∧
      ¬ after.WellFormed ∧ after.parentOf 3 = some 2 ∧ after.children (some 1) = [3, 4] := by
  intro draft after
  have hwell : draft.dom.WellFormed := wellFormed_empty.run validRun_itemSteps
  have habove : draft.dom.parentOf 4 = some 2 := by decide
  have hattached : draft.dom.parentOf 3 ≠ none := by decide
  have hitem : ¬ Within draft.dom.parentOf 4 3 :=
    not_within_of_clears (show clears draft.dom.parentOf 6 4 3 = true by decide)
  exact ⟨hwell, habove, by decide, hitem, by decide,
    fun hafter => hattached (hwell.parentOf_of_insertBefore habove (by decide) (by decide) hafter),
    by decide, by decide⟩

end Draft

end HtmlTemplate
