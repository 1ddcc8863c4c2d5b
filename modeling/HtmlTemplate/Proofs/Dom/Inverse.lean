import HtmlTemplate.Proofs.Dom.Run

/-!
# Taking out and putting back

A node that is taken out and put back where it stood leaves the whole document as it was, and so
does a node that is put somewhere and taken out again (`WellFormed.detach_inverse`). Since a
document stores one forest only, and a forest is stored by one document only, it is enough that the
list operations undo each other: taking out is the inverse of `Forest.place`.
-/

namespace HtmlTemplate

namespace Forest

variable {forest : Forest} {above child sibling id : NodeId} {ids : List NodeId}

/-- What is placed and then taken out leaves a forest as it was when the list without it is the list
that was there. -/
theorem detach_place (hroot : forest.parent child = none)
    (hids : ids.erase child = forest.children above) :
    (forest.place child above ids).detach child = forest := by
  have hplaced : (forest.place child above ids).parent child = some above := by simp [place]
  simp only [detach, hplaced]
  refine Forest.ext rfl ?_ ?_
  · show Function.update (Function.update forest.parent child (some above)) child none = _
    rw [Function.update_idem, Function.update_eq_self_iff, hroot]
  · show Function.update (Function.update forest.children above ids) above
      ((Function.update forest.children above ids above).erase child) = _
    rw [Function.update_self, Function.update_idem, Function.update_eq_self_iff, hids]

/-- What is taken out and then placed under the same parent leaves a forest as it was when the list
is the one that was there. -/
theorem place_detach (habove : forest.parent id = some above) (hids : ids = forest.children above) :
    (forest.detach id).place id above ids = forest := by
  simp only [detach, habove]
  refine Forest.ext rfl ?_ ?_
  · show Function.update (Function.update forest.parent id none) id (some above) = _
    rw [Function.update_idem, Function.update_eq_self_iff, habove]
  · show Function.update (Function.update forest.children above _) above ids = _
    rw [Function.update_idem, Function.update_eq_self_iff, hids]

/-- The children of a parent that has lost one. -/
theorem children_detach_self (habove : forest.parent id = some above) :
    (forest.detach id).children above = (forest.children above).erase id := by
  simp only [detach, habove, Function.update_self]

/-- A node without a parent that is added at the end of a list and taken out leaves the forest as it
was. -/
theorem Proper.detach_append (h : forest.Proper) (hroot : forest.parent child = none) :
    (forest.append above child).detach child = forest := by
  refine detach_place hroot ?_
  rw [List.erase_append_right _ (h.not_mem_of_root hroot above), List.erase_cons_head,
    List.append_nil]

/-- A node without a parent that is inserted before a sibling and taken out leaves the forest as it
was. -/
theorem Proper.detach_insertBefore (h : forest.Proper)
    (hsibling : forest.parent sibling = some above) (hroot : forest.parent child = none) :
    (forest.insertBefore sibling child).detach child = forest := by
  simp only [Forest.insertBefore, hsibling]
  exact detach_place hroot (Siblings.erase_insertBefore (h.not_mem_of_root hroot above))

/-- A last child that is taken out comes back by adding it at the end. -/
theorem Proper.append_detach (h : forest.Proper)
    (hlast : (forest.children above).getLast? = some id) :
    (forest.detach id).append above id = forest := by
  have habove : forest.parent id = some above := h.mem_children.mp (List.mem_of_getLast? hlast)
  refine place_detach habove ?_
  rw [children_detach_self habove, Siblings.erase_concat_of_last (h.nodup above) hlast]

/-- A node is not its own sibling, so the sibling behind it keeps its parent when the node is taken
out. -/
theorem Proper.parent_detach_of_next (h : forest.Proper) (habove : forest.parent id = some above)
    (hnext : forest.next id = some sibling) : (forest.detach id).parent sibling = some above := by
  have hne : sibling ≠ id := by
    rintro rfl
    exact h.next_ne_self sibling hnext
  simp only [Forest.detach, habove, Function.update_of_ne hne]
  exact h.under_of_next habove hnext

/-- A node that is taken out comes back by inserting it before what stood behind it. -/
theorem Proper.insertBefore_detach (h : forest.Proper) (habove : forest.parent id = some above)
    (hnext : forest.next id = some sibling) :
    (forest.detach id).insertBefore sibling id = forest := by
  simp only [Forest.insertBefore, h.parent_detach_of_next habove hnext]
  refine place_detach habove ?_
  rw [next_of_under habove] at hnext
  rw [children_detach_self habove, Siblings.insertBefore_erase (h.nodup above) hnext]

end Forest

namespace Dom

variable {dom : Dom} {above id sibling : NodeId}

section

variable (h : dom.WellFormed)

include h

/-- A child that is taken out may be put under its parent again. -/
theorem WellFormed.valid_append_detach (habove : dom.parentOf id = some above) :
    (Step.append above id).Valid (dom.detach (some id)) := by
  have hparent := parentOf_detach dom id
  have hsize := size_detach dom (some id)
  refine ⟨hsize ▸ h.parent_lt habove, hsize ▸ lt_of_under habove, ?_, ?_⟩
  · rw [hparent, Function.update_self]
  · -- The way up from the parent would lead from the child to itself.
    rw [hparent]
    intro hwithin
    exact h.acyclic id ((below_iff_of_under habove).mpr hwithin.of_release)

/-- A last child that is taken out comes back with all links by appending it. -/
theorem WellFormed.append_detach (hlast : dom.lastChild (some above) = some id) :
    (dom.detach (some id)).append (some above) (some id) = dom := by
  have hchildren : (dom.forest.children above).getLast? = some id :=
    (h.stores.links_eq above).2.2.1.symm.trans hlast
  have habove : dom.parentOf id = some above := h.mem_children.mp (List.mem_of_getLast? hchildren)
  have hafter := (h.stores.detach id).step (h.valid_append_detach habove)
  rw [Step.onForest, h.proper.append_detach hchildren] at hafter
  exact h.stores.unique hafter

/-- A node that is taken out comes back with all links by inserting it before its next sibling. -/
theorem WellFormed.insertBefore_detach (hnext : dom.nextSibling (some id) = some sibling) :
    (dom.detach (some id)).insertBefore (some sibling) (some id) = dom := by
  rw [← h.next_forest] at hnext
  obtain ⟨above, habove, -⟩ := Option.bind_eq_some_iff.mp hnext
  have hsibling := h.proper.parent_detach_of_next habove hnext
  obtain ⟨habove', hid, hroot, houtside⟩ := h.valid_append_detach habove
  have hdetached := h.stores.detach id
  rw [hdetached.size_eq] at hid
  rw [hdetached.parentOf_eq] at hroot houtside
  have hafter := hdetached.insertBefore hsibling hroot hid
    ((below_iff_of_under hsibling).not.mpr houtside)
  rw [h.proper.insertBefore_detach habove hnext] at hafter
  exact h.stores.unique hafter

/-- Taking out a node that was appended restores all links. -/
theorem WellFormed.detach_append (hvalid : (Step.append above id).Valid dom) :
    (dom.append (some above) (some id)).detach (some id) = dom := by
  have hafter := (h.stores.step hvalid).detach id
  rw [Step.onForest, h.proper.detach_append hvalid.2.2.1] at hafter
  exact h.stores.unique hafter

/-- Taking out a node that was inserted restores all links. -/
theorem WellFormed.detach_insertBefore (hvalid : (Step.insertBefore sibling id).Valid dom) :
    (dom.insertBefore (some sibling) (some id)).detach (some id) = dom := by
  obtain ⟨above, habove⟩ := Option.ne_none_iff_exists'.mp hvalid.2.2.1
  have hafter := (h.stores.step hvalid).detach id
  rw [Step.onForest, h.proper.detach_insertBefore habove hvalid.2.2.2.1] at hafter
  exact h.stores.unique hafter

end

/-- Taking out and putting are exact inverses. A node that is taken out and put back before the
sibling that was behind it, or at the end if it was the last child, leaves every link of every node
as it was, and so does a node that stood nowhere, is put where it may be put, and is taken out
again. -/
theorem WellFormed.detach_inverse (h : dom.WellFormed) :
    (∀ id sibling, dom.nextSibling (some id) = some sibling →
      (dom.detach (some id)).insertBefore (some sibling) (some id) = dom) ∧
    (∀ id above, dom.lastChild (some above) = some id →
      (dom.detach (some id)).append (some above) (some id) = dom) ∧
    (∀ id above, (Step.append above id).Valid dom →
      (dom.append (some above) (some id)).detach (some id) = dom) ∧
    ∀ id sibling, (Step.insertBefore sibling id).Valid dom →
      (dom.insertBefore (some sibling) (some id)).detach (some id) = dom :=
  ⟨fun _ _ hnext => h.insertBefore_detach hnext, fun _ _ hlast => h.append_detach hlast,
    fun _ _ hvalid => h.detach_append hvalid, fun _ _ hvalid => h.detach_insertBefore hvalid⟩

/-- In a list with an item and a comment before it, the comment and the item are taken out and
put back; and where the comment stands nowhere, it is put at the end and before the item and
taken out. -/
theorem detach_inverse_list :
    let dom := Dom.empty.run (listSteps.take 8)
    let apart := Dom.empty.run listSteps
    dom.WellFormed ∧ apart.WellFormed ∧
      (dom.detach (some 3)).insertBefore (some 2) (some 3) = dom ∧
      (dom.detach (some 2)).append (some 1) (some 2) = dom ∧
      (apart.append (some 1) (some 3)).detach (some 3) = apart ∧
      (apart.insertBefore (some 2) (some 3)).detach (some 3) = apart := by
  intro dom apart
  have hwell : dom.WellFormed := wellFormed_empty.run (validRun_listSteps.take 8)
  have hapart : apart.WellFormed := wellFormed_empty.run validRun_listSteps
  obtain ⟨hinsert, happend, -, -⟩ := hwell.detach_inverse
  obtain ⟨-, -, hundoAppend, hundoInsert⟩ := hapart.detach_inverse
  exact ⟨hwell, hapart, hinsert 3 2 (by decide), happend 2 1 (by decide),
    hundoAppend 3 1 (Step.valid_of_check (by decide)),
    hundoInsert 3 2 (Step.valid_of_check (by decide))⟩

end Dom

end HtmlTemplate
