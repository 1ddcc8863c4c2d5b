import HtmlTemplate.Proofs.Dom.Descendants
import Mathlib.Data.List.Flatten

/-!
# Document order

`Dom.Precedes` says of two nodes which one comes first: an ancestor comes before what is below it,
and what is within a sibling before what is within a later one. In a well-formed document this is
the order in which the descendants of a node are listed (`WellFormed.precedes_iff`), so a search
that takes the first that fits in this list finds the first in document order
(`WellFormed.find?_descendants`).
-/

namespace HtmlTemplate.Dom

/-- A node comes before another in document order. -/
inductive Precedes (dom : Dom) : NodeId → NodeId → Prop where
  /-- An ancestor comes before what is below it. -/
  | ancestor {id other : NodeId} (hbelow : Below dom.parentOf other id) : Precedes dom id other
  /-- What is within a child comes before what is within a later child of the same node. -/
  | siblings {above left right id other : NodeId}
      (hchildren : [left, right].Sublist (dom.children (some above)))
      (hid : Within dom.parentOf id left) (hother : Within dom.parentOf other right) :
      Precedes dom id other

variable {dom : Dom} {id other root : NodeId}

/-- Of the lists that entries of a list stand for, an earlier one comes first. -/
theorem pair_sublist_flatMap {ids : List NodeId} {lists : NodeId → List NodeId}
    {left right : NodeId} (h : [left, right].Sublist ids) (hid : id ∈ lists left)
    (hother : other ∈ lists right) : [id, other].Sublist (ids.flatMap lists) := by
  have hpair : [id, other].Sublist (lists left ++ (lists right ++ [])) :=
    (List.singleton_sublist.mpr hid).append
      (List.singleton_sublist.mpr (List.mem_append_left [] hother))
  exact hpair.trans (h.flatMap lists)

/-- A node within another is that node or within one of its children. -/
theorem WellFormed.within_cases (h : dom.WellFormed) (hid : Within dom.parentOf id root) :
    id = root ∨ ∃ child ∈ dom.children (some root), Within dom.parentOf id child := by
  rcases Relation.ReflTransGen.cases_tail hid with rfl | ⟨child, hdown, hchild⟩
  · exact .inl rfl
  · exact .inr ⟨child, h.mem_children.mpr hchild, hdown⟩

/-- The descendants of a node are listed in document order. -/
theorem WellFormed.pairwise_precedes (h : dom.WellFormed) (hroot : root < dom.size) :
    (dom.descendants (some root)).Pairwise dom.Precedes := by
  refine h.induction_on (motive := fun root =>
    (dom.descendants (some root)).Pairwise dom.Precedes) hroot ?_
  intro root hroot ih
  have hwithin : ∀ child ∈ dom.children (some root), ∀ id ∈ dom.descendants (some child),
      Within dom.parentOf id child := fun child hchild id hid =>
    (h.mem_descendants (lt_of_under (h.mem_children.mp hchild))).mp hid
  rw [h.descendants_eq hroot, List.pairwise_cons, List.pairwise_flatMap]
  refine ⟨fun id hid => ?_, ih,
    List.pairwise_iff_forall_sublist.mpr fun {left right} hsiblings => ?_⟩
  · obtain ⟨child, hchild, hid⟩ := List.mem_flatMap.mp hid
    exact .ancestor (Relation.TransGen.tail' (hwithin child hchild id hid)
      (h.mem_children.mp hchild))
  · have hleft : left ∈ dom.children (some root) := hsiblings.mem List.mem_cons_self
    have hright : right ∈ dom.children (some root) := hsiblings.mem (by simp)
    exact fun id hid other hother =>
      .siblings hsiblings (hwithin left hleft id hid) (hwithin right hright other hother)

/-- The order among the descendants of a child is that among the descendants of the node. -/
theorem WellFormed.sublist_descendants (h : dom.WellFormed) (hroot : root < dom.size)
    {child : NodeId} (hchild : child ∈ dom.children (some root)) :
    (dom.descendants (some child)).Sublist (dom.descendants (some root)) := by
  have hpart : (dom.descendants (some child)).Sublist
      ((dom.children (some root)).flatMap fun child => dom.descendants (some child)) := by
    simpa using
      (List.singleton_sublist.mpr hchild).flatMap fun child => dom.descendants (some child)
  rw [h.descendants_eq hroot]
  exact hpart.cons root

/-- A node that has nodes within two siblings within it has the parent of the siblings within it. -/
theorem WellFormed.within_of_siblings (h : dom.WellFormed) {above left right : NodeId}
    (hsiblings : [left, right].Sublist (dom.children (some above)))
    (hleft : Within dom.parentOf id left) (hright : Within dom.parentOf other right)
    (hid : Within dom.parentOf id root) (hother : Within dom.parentOf other root) :
    Within dom.parentOf above root := by
  have hleftUnder := h.mem_children.mp (hsiblings.mem List.mem_cons_self)
  have hrightUnder := h.mem_children.mp (hsiblings.mem (a := right) (by simp))
  have hne : left ≠ right := by
    rintro rfl
    simpa using (h.nodup_children above).sublist hsiblings
  -- Were the root within the left one, so would the other node be, which is within the right one.
  have houtside : ¬ Within dom.parentOf root left := fun hroot =>
    hne (h.eq_of_within_children hleftUnder hrightUnder (hother.trans hroot) hright)
  have hinside : Within dom.parentOf left root := (within_total hid hleft).resolve_left houtside
  rcases (within_iff_of_under hleftUnder).mp hinside with rfl | habove
  · exact absurd .refl houtside
  · exact habove

/-- What comes first in document order is listed first. -/
theorem WellFormed.sublist_of_precedes (h : dom.WellFormed) (hroot : root < dom.size)
    (hid : Within dom.parentOf id root) (hother : Within dom.parentOf other root)
    (hprecedes : dom.Precedes id other) : [id, other].Sublist (dom.descendants (some root)) := by
  refine h.induction_on (motive := fun root => Within dom.parentOf id root →
    Within dom.parentOf other root → [id, other].Sublist (dom.descendants (some root)))
    hroot ?_ hid hother
  intro root hroot ih hid hother
  cases hprecedes with
  | ancestor hbelow =>
      rcases h.within_cases hid with rfl | ⟨child, hchild, hid⟩
      · rcases h.within_cases hother with rfl | ⟨child, hchild, hother⟩
        · exact absurd hbelow (h.acyclic other)
        · have hmem := (h.mem_descendants (lt_of_under (h.mem_children.mp hchild))).mpr hother
          rw [h.descendants_eq hroot]
          exact (List.singleton_sublist.mpr
            (List.mem_flatMap.mpr ⟨child, hchild, hmem⟩)).cons_cons id
      · exact (ih child hchild hid (hbelow.to_reflTransGen.trans hid)).trans
          (h.sublist_descendants hroot hchild)
  | @siblings above left right _ _ hsiblings hleft hright =>
      have hleftUnder := h.mem_children.mp (hsiblings.mem List.mem_cons_self)
      have hrightUnder := h.mem_children.mp (hsiblings.mem (a := right) (by simp))
      have habove := h.within_of_siblings hsiblings hleft hright hid hother
      rcases h.within_cases habove with rfl | ⟨child, hchild, habove⟩
      · have hidMem := (h.mem_descendants (lt_of_under hleftUnder)).mpr hleft
        have hotherMem := (h.mem_descendants (lt_of_under hrightUnder)).mpr hright
        rw [h.descendants_eq hroot]
        exact (pair_sublist_flatMap hsiblings hidMem hotherMem).cons above
      · have hleftIn := ((below_iff_of_under hleftUnder).mpr habove).to_reflTransGen
        have hrightIn := ((below_iff_of_under hrightUnder).mpr habove).to_reflTransGen
        exact (ih child hchild (hleft.trans hleftIn) (hright.trans hrightIn)).trans
          (h.sublist_descendants hroot hchild)

/-- The order in which descendants are listed is document order. -/
theorem WellFormed.precedes_iff (h : dom.WellFormed) (hroot : root < dom.size)
    (hid : Within dom.parentOf id root) (hother : Within dom.parentOf other root) :
    dom.Precedes id other ↔ [id, other].Sublist (dom.descendants (some root)) :=
  ⟨h.sublist_of_precedes hroot hid hother,
    List.pairwise_iff_forall_sublist.mp (h.pairwise_precedes hroot)⟩

/-- Of two entries of a list without repetition, only one comes before the other. -/
theorem not_sublist_swap {ids : List NodeId} (hnodup : ids.Nodup)
    (h : [id, other].Sublist ids) : ¬ [other, id].Sublist ids := by
  intro hback
  obtain ⟨front, back, rfl, hid, hother⟩ := List.cons_sublist_iff.mp h
  obtain ⟨before, behind, hsplit, hotherBefore, hidBehind⟩ := List.cons_sublist_iff.mp hback
  rw [List.singleton_sublist] at hother hidBehind
  have hfront := (List.nodup_append.mp hnodup).2.2
  have hbefore := (List.nodup_append.mp (hsplit ▸ hnodup)).2.2
  -- Whichever of the two splits is further to the front, one of the nodes is on both its sides.
  rcases List.append_eq_append_iff.mp hsplit with ⟨middle, rfl, -⟩ | ⟨middle, rfl, -⟩
  · exact hbefore id (List.mem_append_left _ hid) id hidBehind rfl
  · exact hfront other (List.mem_append_left _ hotherBefore) other hother rfl

/-- Of two nodes of one tree, only one comes before the other. -/
theorem WellFormed.precedes_asymm (h : dom.WellFormed) (hroot : root < dom.size)
    (hid : Within dom.parentOf id root) (hother : Within dom.parentOf other root)
    (hprecedes : dom.Precedes id other) : ¬ dom.Precedes other id := by
  rw [h.precedes_iff hroot hid hother] at hprecedes
  rw [h.precedes_iff hroot hother hid]
  exact not_sublist_swap (h.nodup_descendants root) hprecedes

/-! ## The first node that fits -/

/-- A node is the first in document order, among those within `root`, that satisfies a condition. -/
structure IsFirst (dom : Dom) (root : NodeId) (condition : NodeId → Prop) (id : NodeId) : Prop where
  within_root : Within dom.parentOf id root
  fits : condition id
  precedes : ∀ other, Within dom.parentOf other root → condition other → other ≠ id →
    dom.Precedes id other

/-- A search among the descendants of a node finds the first that fits in document order. -/
theorem WellFormed.find?_descendants (h : dom.WellFormed) (hroot : root < dom.size)
    (fits : NodeId → Bool) :
    (dom.descendants (some root)).find? fits = some id ↔
      dom.IsFirst root (fun id => fits id = true) id := by
  have hfirst : ∀ {id}, (dom.descendants (some root)).find? fits = some id →
      dom.IsFirst root (fun id => fits id = true) id := by
    intro id hfind
    have hmem := (h.mem_descendants hroot).mp (List.mem_of_find?_eq_some hfind)
    obtain ⟨hfits, front, back, hsplit, hfront⟩ := List.find?_eq_some_iff_append.mp hfind
    refine ⟨hmem, hfits, fun other hother hfitsOther hne => ?_⟩
    have hsorted := h.pairwise_precedes hroot
    rw [← h.mem_descendants hroot, hsplit, List.mem_append, List.mem_cons] at hother
    rw [hsplit, List.pairwise_append, List.pairwise_cons] at hsorted
    rcases hother with hother | hother | hother
    · have hnot := hfront other hother
      rw [hfitsOther] at hnot
      cases hnot
    · exact absurd hother hne
    · exact hsorted.2.1.1 other hother
  refine ⟨hfirst, fun hid => ?_⟩
  cases hfind : (dom.descendants (some root)).find? fits with
  | none =>
      have hmem := (h.mem_descendants hroot).mpr hid.within_root
      exact absurd hid.fits (List.find?_eq_none.mp hfind id hmem)
  | some found =>
      have hfound := hfirst hfind
      by_contra hne
      have hne : found ≠ id := fun heq => hne (congrArg some heq)
      exact h.precedes_asymm hroot hid.within_root hfound.within_root
        (hid.precedes found hfound.within_root hfound.fits hne)
        (hfound.precedes id hid.within_root hid.fits hne.symm)

end HtmlTemplate.Dom
