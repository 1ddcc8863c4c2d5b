import HtmlTemplate.Draft
import HtmlTemplate.Proofs.Dom.Moves

/-!
# Moving the children of a node

`Draft.reparentChildren` takes the children of a node out and puts them at the end of another, one
at a time, while one list shrinks and the other grows. The other node may be the node itself, whose
list then goes round once, or any of its ancestors. `reparentChildren_moves` says what this comes
to: one list is put behind the other as a whole, and nothing else has changed.
-/

namespace HtmlTemplate

namespace Dom

/-- A document is another one with the children of `node` moved to the end of `above`. -/
structure Reparented (dom after : Dom) (node above : NodeId) : Prop where
  wellFormed : after.WellFormed
  /-- The moved children come behind those that are there, in their old order. -/
  target : node ≠ above → after.children (some above) =
    dom.children (some above) ++ dom.children (some node)
  source : node ≠ above → after.children (some node) = []
  /-- A node whose children are moved to itself keeps them in their order. -/
  same : node = above → after.children (some node) = dom.children (some node)
  others : ∀ other, other ≠ node → other ≠ above →
    after.children (some other) = dom.children (some other)
  /-- Below a moved child there are the same nodes, and each of them is what it was, links and all.
  -/
  subtrees : ∀ child ∈ dom.children (some node),
    after.descendants (some child) = dom.descendants (some child) ∧
      ∀ id, Below dom.parentOf id child → after.get? (some id) = dom.get? (some id)
  size : after.size = dom.size
  payloads : ∀ id, after.payload? (some id) = dom.payload? (some id)

/-- The steps that move the children of `node`, one after the other, to the end of `above`. -/
def reparentSteps (dom : Dom) (node above : NodeId) : List Step :=
  moveSteps above (dom.children (some node))

variable {dom : Dom} {node above id child other : NodeId}

section

variable (h : dom.WellFormed)

include h

/-- What is within a child of a node is neither that node nor one that is not below it. -/
theorem WellFormed.ne_of_within_child (houtside : ¬ Below dom.parentOf above node)
    (hchild : child ∈ dom.children (some node)) (hid : Within dom.parentOf id child) :
    id ≠ node ∧ id ≠ above := by
  have hbelow : Below dom.parentOf id node := Relation.TransGen.tail' hid (h.mem_children.mp hchild)
  constructor
  · rintro rfl
    exact h.acyclic id hbelow
  · rintro rfl
    exact houtside hbelow

/-- The children of a node may be moved to any node that is not below it. -/
theorem WellFormed.validRun_reparentSteps (habove : above < dom.size)
    (houtside : ¬ Below dom.parentOf above node) : dom.ValidRun (dom.reparentSteps node above) :=
  validRun_moveSteps habove fun _ hchild =>
    ⟨lt_of_under (h.mem_children.mp hchild),
      fun hwithin => (h.ne_of_within_child houtside hchild hwithin).2 rfl⟩

variable (hvalid : dom.ValidRun (dom.reparentSteps node above))

include hvalid

/-- The lists of children after the move. -/
theorem WellFormed.children_reparent (target : NodeId) :
    (dom.run (dom.reparentSteps node above)).children (some target) =
      (if target = node then [] else dom.children (some target)) ++
        if target = above then dom.children (some node) else [] := by
  rw [reparentSteps, h.children_run_moveSteps hvalid (h.nodup_children node)]
  congr 1
  split
  · next heq =>
      rw [heq]
      exact List.filter_eq_nil_iff.mpr (by simp)
  · next hne =>
      -- A child of another node is none of those that are moved.
      refine List.filter_eq_self.mpr fun child hchild => decide_eq_true fun hmoved => hne ?_
      rw [h.mem_children] at hchild hmoved
      exact Option.some.inj (hchild.symm.trans hmoved)

/-- All other lists of children stay as they are. -/
theorem WellFormed.children_reparent_other (hnode : other ≠ node) (habove : other ≠ above) :
    (dom.run (dom.reparentSteps node above)).children (some other) = dom.children (some other) := by
  rw [h.children_reparent hvalid, if_neg hnode, if_neg habove, List.append_nil]

variable (houtside : ¬ Below dom.parentOf above node) (hchild : child ∈ dom.children (some node))

include houtside hchild

/-- Each child keeps its descendants when it is moved. -/
theorem WellFormed.descendants_reparent :
    (dom.run (dom.reparentSteps node above)).descendants (some child) =
      dom.descendants (some child) := by
  have hsize := (run_of_onlyMoves dom (onlyMoves_moveSteps above (dom.children (some node)))).1
  refine h.descendants_eq_of_children (h.run hvalid) hsize (lt_of_under (h.mem_children.mp hchild))
    fun id hid => ?_
  obtain ⟨hnode, habove⟩ := h.ne_of_within_child houtside hchild hid
  exact h.children_reparent_other hvalid hnode habove

/-- A node below a moved child has the same children, the same parent and the same siblings. -/
theorem WellFormed.get?_reparent (hid : Below dom.parentOf id child) :
    (dom.run (dom.reparentSteps node above)).get? (some id) = dom.get? (some id) := by
  have hpayload := (run_of_onlyMoves dom (onlyMoves_moveSteps above (dom.children (some node)))).2
  obtain ⟨parent, hparent, hwithin⟩ := Relation.TransGen.head'_iff.mp hid
  obtain ⟨hidNode, hidAbove⟩ := h.ne_of_within_child houtside hchild hid.to_reflTransGen
  obtain ⟨hparentNode, hparentAbove⟩ := h.ne_of_within_child houtside hchild hwithin
  exact h.get?_eq_of_children (h.run hvalid) (hpayload id)
    (h.children_reparent_other hvalid hidNode hidAbove) hparent
    (h.children_reparent_other hvalid hparentNode hparentAbove)

end

end Dom

namespace Draft

open Dom

/-- Moving children is taking each of them out and appending it, in order. -/
theorem dom_reparentChildren (draft : Draft) (node above : NodeId) :
    (draft.reparentChildren (some node) (some above)).dom =
      draft.dom.run (draft.dom.reparentSteps node above) := by
  rw [reparentSteps, run_moveSteps]
  rfl

/-- In a draft whose document is well-formed, the children of a node can be moved to the end of any
node that exists and is not below it, and that is all that changes. -/
theorem reparentChildren_moves {draft : Draft} (h : draft.dom.WellFormed) {node above : NodeId}
    (habove : above < draft.dom.size) (houtside : ¬ Below draft.dom.parentOf above node) :
    draft.dom.Reparented (draft.reparentChildren (some node) (some above)).dom node above := by
  have hvalid := h.validRun_reparentSteps habove houtside
  have hchildren := h.children_reparent hvalid
  obtain ⟨hsize, hpayloads⟩ :=
    run_of_onlyMoves draft.dom (onlyMoves_moveSteps above (draft.dom.children (some node)))
  rw [dom_reparentChildren]
  refine ⟨h.run hvalid, fun hne => ?_, fun hne => ?_, ?_, ?_, ?_, hsize, hpayloads⟩
  · rw [hchildren, if_neg hne.symm, if_pos rfl]
  · rw [hchildren, if_pos rfl, if_neg hne, List.append_nil]
  · rintro rfl
    rw [hchildren, if_pos rfl, if_pos rfl, List.nil_append]
  · exact fun other hnode habove => h.children_reparent_other hvalid hnode habove
  · exact fun child hchild => ⟨h.descendants_reparent hvalid houtside hchild,
      fun id hid => h.get?_reparent hvalid houtside hchild hid⟩

/-- The steps that make a paragraph of a bold part, which has a text and an italic part with a text
of its own, and a text behind it. -/
def boldSteps : List Step :=
  [.create (.element (.html "p") []), .append 0 1, .create (.element (.html "b") []), .append 1 2,
    .appendText 2 "bold", .create (.element (.html "i") []), .append 2 4, .appendText 4 "both",
    .appendText 1 "plain"]

/-- The document is built by valid steps. -/
theorem validRun_boldSteps : Dom.empty.ValidRun boldSteps :=
  validRun_of_check (by decide)

/-- The bold part is moved to the end of the paragraph, and then the paragraph's children to the
paragraph itself. -/
theorem reparentChildren_moves_bold :
    let draft : Draft := { dom := Dom.empty.run boldSteps }
    draft.dom.WellFormed ∧ 1 < draft.dom.size ∧ ¬ Below draft.dom.parentOf 1 2 ∧
      ¬ Below draft.dom.parentOf 1 1 ∧
      (draft.reparentChildren (some 2) (some 1)).dom.children (some 1) = [2, 6, 3, 4] ∧
      (draft.reparentChildren (some 2) (some 1)).dom.descendants (some 4) =
        draft.dom.descendants (some 4) ∧
      (draft.reparentChildren (some 1) (some 1)).dom.children (some 1) = [2, 6] := by
  intro draft
  have hwell : draft.dom.WellFormed := wellFormed_empty.run validRun_boldSteps
  have hroot : 1 < draft.dom.size := by decide
  have hup : ¬ Below draft.dom.parentOf 1 2 := fun hbelow =>
    not_within_of_clears (show clears draft.dom.parentOf 9 1 2 = true by decide)
      hbelow.to_reflTransGen
  have hself : ¬ Below draft.dom.parentOf 1 1 := hwell.acyclic 1
  have hmoved := reparentChildren_moves hwell hroot hup
  have hround := reparentChildren_moves hwell hroot hself
  have hparagraph : draft.dom.children (some 1) = [2, 6] := by decide
  have hbold : draft.dom.children (some 2) = [3, 4] := by decide
  refine ⟨hwell, hroot, hup, hself, ?_, ?_, ?_⟩
  · rw [hmoved.target (by decide), hparagraph, hbold]
    rfl
  · exact (hmoved.subtrees 4 (by rw [hbold]; decide)).1
  · rw [hround.same rfl, hparagraph]

end Draft

end HtmlTemplate
