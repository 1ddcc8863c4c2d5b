import HtmlTemplate.Proofs.Dom.Traversable

/-!
# Descendants of well-formed documents

`Dom.walk` visits a subtree with a stack and a bound on its depth. Here the stack is taken away
(`descendants_eq_preorder`), and in a well-formed document the bound too: no chain of parents is
longer than the document (`WellFormed.fits`), so the descendants of a node are the node and the
descendants of its children (`WellFormed.descendants_eq`). They are each other's tree seen from
above and from below: `WellFormed.mem_descendants` says that they are the nodes within it.

`WellFormed.induction_on` proves a property of every node from the same property of its children.
-/

namespace HtmlTemplate.Dom

variable {dom : Dom} {id root : NodeId}

/-! ## The walk without its stack -/

/-- A node and its descendants down to so many levels below it, each before its own. -/
def preorder (dom : Dom) : Nat → NodeId → List NodeId
  | 0, id => [id]
  | levels + 1, id => id :: (dom.children (some id)).flatMap (preorder dom levels)

/-- Nodes that are pending are visited one after the other. -/
theorem walk_eq (dom : Dom) (visited : List NodeId) (stack : List Pending) :
    dom.walk visited stack =
      visited.reverse ++ stack.flatMap fun pending => dom.preorder pending.levels pending.id := by
  fun_induction walk dom visited stack with
  | case1 visited => simp
  | case2 visited pending stack ih =>
      obtain ⟨id, levels⟩ := pending
      rw [ih]
      cases levels with
      | zero => simp [Pending.below, preorder]
      | succ levels => simp [Pending.below, preorder, List.flatMap_map]

/-- The descendants of a node that is there are the walk with as many levels as nodes. -/
theorem descendants_eq_preorder (h : id < dom.size) :
    dom.descendants (some id) = dom.preorder dom.size id := by
  simp [descendants, h, walk_eq]

/-- A node that is not there has no descendants. -/
theorem descendants_eq_nil (h : dom.size ≤ id) : dom.descendants (some id) = [] := by
  simp [descendants, Nat.not_lt.mpr h]

/-- With enough levels, more of them do not change the walk. -/
theorem Fits.preorder_eq {levels more : Nat} (h : dom.Fits levels id) (hle : levels ≤ more) :
    dom.preorder more id = dom.preorder levels id := by
  induction levels generalizing more id with
  | zero => exact h.elim
  | succ levels ih =>
      cases more with
      | zero => exact absurd hle (Nat.not_succ_le_zero _)
      | succ more =>
          rw [preorder, preorder]
          have hchildren : ∀ child ∈ dom.children (some id),
              dom.preorder more child = dom.preorder levels child :=
            fun child hchild => ih (h child hchild) (Nat.le_of_succ_le_succ hle)
          rw [List.flatMap_congr hchildren]

/-- A property that an existing node has when its children have it holds of every existing node. -/
theorem WellFormed.induction_on {motive : NodeId → Prop} (h : dom.WellFormed) (hid : id < dom.size)
    (step : ∀ id < dom.size, (∀ child ∈ dom.children (some id), motive child) → motive id) :
    motive id := by
  refine h.traversable.induction_on (motive := fun id => id < dom.size → motive id) id ?_ hid
  intro id ih hid
  exact step id hid fun child hchild => ih child hchild (lt_of_under (h.mem_children.mp hchild))

/-! ## The descendants of a node -/

/-- The descendants of a node are the node and the descendants of its children. -/
theorem WellFormed.descendants_eq (h : dom.WellFormed) (hid : id < dom.size) :
    dom.descendants (some id) =
      id :: (dom.children (some id)).flatMap fun child => dom.descendants (some child) := by
  have hfits := h.fits hid
  rw [descendants_eq_preorder hid]
  cases hsize : dom.size with
  | zero => exact absurd hid (by simp [hsize])
  | succ levels =>
      rw [hsize] at hfits
      have hchildren : ∀ child ∈ dom.children (some id),
          dom.preorder levels child = dom.descendants (some child) := by
        intro child hchild
        rw [descendants_eq_preorder (lt_of_under (h.mem_children.mp hchild)), hsize]
        exact ((hfits child hchild).preorder_eq (Nat.le_succ levels)).symm
      rw [preorder, List.flatMap_congr hchildren]

/-- The descendants of a node are the nodes within it. -/
theorem WellFormed.mem_descendants (h : dom.WellFormed) (hroot : root < dom.size) :
    id ∈ dom.descendants (some root) ↔ Within dom.parentOf id root := by
  refine h.induction_on (motive := fun root =>
    id ∈ dom.descendants (some root) ↔ Within dom.parentOf id root) hroot ?_
  intro root hroot ih
  rw [h.descendants_eq hroot, List.mem_cons, List.mem_flatMap]
  constructor
  · rintro (rfl | ⟨child, hchild, hmem⟩)
    · exact Relation.ReflTransGen.refl
    · exact ((ih child hchild).mp hmem).tail (h.mem_children.mp hchild)
  · intro hwithin
    rcases Relation.ReflTransGen.cases_tail hwithin with rfl | ⟨child, hdown, hchild⟩
    · exact Or.inl rfl
    · have hmem := h.mem_children.mpr hchild
      exact Or.inr ⟨child, hmem, (ih child hmem).mpr hdown⟩

/-- What is within two children of one node is within the same child. -/
theorem WellFormed.eq_of_within_children (h : dom.WellFormed) {above left right : NodeId}
    (hleft : dom.parentOf left = some above) (hright : dom.parentOf right = some above)
    (hinLeft : Within dom.parentOf id left) (hinRight : Within dom.parentOf id right) :
    left = right := by
  have hsame : ∀ {child other}, dom.parentOf child = some above → dom.parentOf other = some above →
      Within dom.parentOf child other → child = other := by
    intro child other hchild hother hwithin
    rcases (within_iff_of_under hchild).mp hwithin with heq | hup
    · exact heq.symm
    · exact (h.acyclic other (Relation.TransGen.head' hother hup)).elim
  rcases within_total hinLeft hinRight with hwithin | hwithin
  · exact hsame hleft hright hwithin
  · exact (hsame hright hleft hwithin).symm

/-- No descendant is met twice. -/
theorem WellFormed.nodup_descendants (h : dom.WellFormed) (root : NodeId) :
    (dom.descendants (some root)).Nodup := by
  by_cases hroot : root < dom.size
  · refine h.induction_on (motive := fun root => (dom.descendants (some root)).Nodup) hroot ?_
    intro root hroot ih
    rw [h.descendants_eq hroot, List.nodup_cons, List.nodup_flatMap]
    refine ⟨?_, ih, ?_⟩
    · rw [List.mem_flatMap]
      rintro ⟨child, hchild, hmem⟩
      have hunder := h.mem_children.mp hchild
      rw [h.mem_descendants (lt_of_under hunder)] at hmem
      exact h.acyclic child (Relation.TransGen.head' hunder hmem)
    · refine (h.nodup_children root).imp_of_mem fun {left right} hleft hright hne => ?_
      have hleft := h.mem_children.mp hleft
      have hright := h.mem_children.mp hright
      intro id hinLeft hinRight
      rw [h.mem_descendants (lt_of_under hleft)] at hinLeft
      rw [h.mem_descendants (lt_of_under hright)] at hinRight
      exact hne (h.eq_of_within_children hleft hright hinLeft hinRight)
  · rw [descendants_eq_nil (Nat.not_lt.mp hroot)]
    exact List.nodup_nil

end HtmlTemplate.Dom
