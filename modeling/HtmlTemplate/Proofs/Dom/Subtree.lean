import HtmlTemplate.Proofs.Dom.Descendants

/-!
# What is read below a node

A walk through a subtree reads little of it: what each node says, where its children begin, and
which sibling comes next below the root. The other links, and those of the root to its parent and
its siblings, it never reads. `Dom.SameBelow` says that two documents agree on what is read, and
then the walks agree (`SameBelow.descendants_eq`, `SameBelow.textContent_eq`), though the second
document may be ill-formed everywhere else.
-/

namespace HtmlTemplate

/-- Links that are the same at the nodes met lead to the same nodes. -/
theorem Follows.congr {next other : NodeId → Link} {link : Link} {ids : List NodeId}
    (h : Follows next link ids) (hsame : ∀ id ∈ ids, other id = next id) :
    Follows other link ids := by
  induction ids generalizing link with
  | nil => exact h
  | cons head tail ih =>
      obtain ⟨hlink, htail⟩ := h
      refine ⟨hlink, ?_⟩
      rw [hsame head List.mem_cons_self]
      exact ih htail fun id hid => hsame id (List.mem_cons_of_mem _ hid)

namespace Dom

/-- What a walk reads at and below `root` is the same in another document. -/
structure SameBelow (dom other : Dom) (root : NodeId) : Prop where
  /-- The other document has no fewer nodes. -/
  size_le : dom.size ≤ other.size
  payload_eq : ∀ id, Within dom.parentOf id root →
    other.payload? (some id) = dom.payload? (some id)
  firstChild_eq : ∀ id, Within dom.parentOf id root →
    other.firstChild (some id) = dom.firstChild (some id)
  nextSibling_eq : ∀ id, Below dom.parentOf id root →
    other.nextSibling (some id) = dom.nextSibling (some id)

variable {dom other : Dom} {id root : NodeId}

/-- A child of a node within `root` is below `root`. -/
theorem WellFormed.below_of_child (h : dom.WellFormed) {child : NodeId}
    (hid : Within dom.parentOf id root) (hchild : child ∈ dom.children (some id)) :
    Below dom.parentOf child root :=
  Relation.TransGen.head' (h.mem_children.mp hchild) hid

/-- Documents of one size that have the same nodes at and below `root` agree on what is read. -/
theorem SameBelow.of_get? (hsize : other.size = dom.size)
    (h : ∀ id, Within dom.parentOf id root → other.get? (some id) = dom.get? (some id)) :
    dom.SameBelow other root where
  size_le := Nat.le_of_eq hsize.symm
  payload_eq id hid := by rw [payload?, payload?, h id hid]
  firstChild_eq id hid := by rw [firstChild, firstChild, h id hid]
  nextSibling_eq id hid := by rw [nextSibling, nextSibling, h id hid.to_reflTransGen]

/-! ## Walks agree -/

/-- What is the same below a node is the same below every node in its subtree. -/
theorem SameBelow.of_within (h : dom.SameBelow other root) (hid : Within dom.parentOf id root) :
    dom.SameBelow other id where
  size_le := h.size_le
  payload_eq below hbelow := h.payload_eq below (hbelow.trans hid)
  firstChild_eq below hbelow := h.firstChild_eq below (hbelow.trans hid)
  nextSibling_eq below hbelow := h.nextSibling_eq below (hbelow.trans_left hid)

/-- What is the same below a node is the same below each of its children. -/
theorem SameBelow.of_child (h : dom.SameBelow other root) (hwell : dom.WellFormed)
    {child : NodeId} (hchild : child ∈ dom.children (some root)) : dom.SameBelow other child :=
  h.of_within (hwell.below_of_child .refl hchild).to_reflTransGen

/-- The node has the same children in both documents. -/
theorem SameBelow.children_eq (h : dom.SameBelow other root) (hwell : dom.WellFormed)
    (hroot : root < dom.size) : other.children (some root) = dom.children (some root) := by
  obtain ⟨hnodup, hnext, -, hmem⟩ := hwell.follows_children hroot
  have hfollows : Follows (fun child => other.nextSibling (some child))
      (other.firstChild (some root)) (dom.children (some root)) := by
    rw [h.firstChild_eq root .refl]
    exact hnext.congr fun child hchild =>
      h.nextSibling_eq child (hwell.below_of_child .refl hchild)
  have hlength : (dom.children (some root)).length ≤ dom.size :=
    length_le_size hnodup fun child hchild => lt_of_under ((hmem child).mp hchild)
  exact chain_eq_of_follows hfollows
    (Nat.le_succ_of_le (Nat.le_trans hlength h.size_le))

/-- A walk of any depth gives the same nodes in both documents. -/
theorem SameBelow.preorder_eq (h : dom.SameBelow other root) (hwell : dom.WellFormed)
    (hroot : root < dom.size) (levels : Nat) :
    other.preorder levels root = dom.preorder levels root := by
  induction levels generalizing root with
  | zero => rfl
  | succ levels ih =>
      rw [preorder, preorder, h.children_eq hwell hroot]
      exact congrArg (root :: ·) (List.flatMap_congr fun child hchild =>
        ih (h.of_child hwell hchild) (lt_of_under (hwell.mem_children.mp hchild)))

/-- A depth that is enough for the subtree in one document is enough in the other. -/
theorem SameBelow.fits (h : dom.SameBelow other root) (hwell : dom.WellFormed)
    (hroot : root < dom.size) {levels : Nat} (hfits : dom.Fits levels root) :
    other.Fits levels root := by
  induction levels generalizing root with
  | zero => exact hfits
  | succ levels ih =>
      intro child hchild
      rw [h.children_eq hwell hroot] at hchild
      exact ih (h.of_child hwell hchild) (lt_of_under (hwell.mem_children.mp hchild))
        (hfits child hchild)

/-- The node has the same descendants in both documents. -/
theorem SameBelow.descendants_eq (h : dom.SameBelow other root) (hwell : dom.WellFormed)
    (hroot : root < dom.size) : other.descendants (some root) = dom.descendants (some root) := by
  have hfits := h.fits hwell hroot (hwell.fits hroot)
  rw [descendants_eq_preorder hroot,
    descendants_eq_preorder (Nat.lt_of_lt_of_le hroot h.size_le),
    hfits.preorder_eq h.size_le, h.preorder_eq hwell hroot]

/-- The node has the same text in both documents. -/
theorem SameBelow.textContent_eq (h : dom.SameBelow other root) (hwell : dom.WellFormed)
    (hroot : root < dom.size) : other.textContent (some root) = dom.textContent (some root) := by
  rw [textContent, textContent, h.descendants_eq hwell hroot]
  refine List.foldl_ext _ _ _ fun text id hid => ?_
  have hpayload := h.payload_eq id ((hwell.mem_descendants hroot).mp hid)
  rw [text?, text?, hpayload]

end Dom

end HtmlTemplate
