import HtmlTemplate.Proofs.Dom.WellFormed

/-!
# Documents that can be walked

A document can be walked from any node down when the sibling links behind every first child come to
an end and no node is met again below itself. `Dom.Traversable` says so, and asks neither that links
lead to nodes that exist nor that a node stands in one place only. Then `Dom.children` is the whole
chain of sibling links (`Traversable.follows_children`), and a node has no more levels below it than
there are nodes (`Traversable.fits`). Well-formed documents can be walked
(`WellFormed.traversable`), and there no level is lost to a missing node (`WellFormed.fits`).
-/

namespace HtmlTemplate.Dom

/-- `id` is met below `above`, on the way from children to children. -/
def Descends (dom : Dom) : NodeId → NodeId → Prop :=
  Relation.TransGen fun above child => child ∈ dom.children (some above)

/-- The node and its descendants have at most so many levels. -/
def Fits (dom : Dom) : Nat → NodeId → Prop
  | 0, _ => False
  | levels + 1, id => ∀ child ∈ dom.children (some id), Fits dom levels child

/-- Every walk through a document comes to an end. -/
structure Traversable (dom : Dom) : Prop where
  /-- The sibling links behind a first child come to an end. -/
  chain_ends : ∀ id, ∃ ids : List NodeId,
    Follows (fun child => dom.nextSibling (some child)) (dom.firstChild (some id)) ids
  /-- No node is met below itself. -/
  acyclic : ∀ id, ¬ dom.Descends id id

variable {dom : Dom} {id : NodeId}

/-! ## Bounds on the depth -/

/-- More levels than enough are enough. -/
theorem Fits.mono {levels more : Nat} (h : dom.Fits levels id) (hle : levels ≤ more) :
    dom.Fits more id := by
  induction levels generalizing more id with
  | zero => exact h.elim
  | succ levels ih =>
      cases more with
      | zero => exact absurd hle (Nat.not_succ_le_zero _)
      | succ more => exact fun child hchild => ih (h child hchild) (Nat.le_of_succ_le_succ hle)

/-- A node with a child is there. -/
theorem lt_of_mem_children {child : NodeId} (h : child ∈ dom.children (some id)) :
    id < dom.size := by
  by_contra hid
  rw [children_eq_nil (Nat.not_lt.mp hid)] at h
  cases h

/-- With `path` above it, a node has room below for as many levels as `bound` leaves, when no path
of existing nodes above one of the nodes in question is as long as `bound`. -/
theorem fits_of_path (Known : NodeId → Prop) {bound : Nat} (hacyclic : ∀ id, ¬ dom.Descends id id)
    (hknown : ∀ id, Known id → ∀ child ∈ dom.children (some id), Known child)
    (hbound : ∀ id path, Known id → (id :: path).Nodup → (∀ above ∈ path, above < dom.size) →
      path.length < bound)
    {levels : Nat} {path : List NodeId} (hid : Known id) (hnodup : path.Nodup)
    (hpath : ∀ above ∈ path, dom.Descends above id) (hlevels : bound ≤ levels + path.length) :
    dom.Fits levels id := by
  have hnew : ∀ {id} {path : List NodeId}, (∀ above ∈ path, dom.Descends above id) → id ∉ path :=
    fun hpath hmem => hacyclic _ (hpath _ hmem)
  induction levels generalizing id path with
  | zero =>
      have hlt := hbound id path hid (List.nodup_cons.mpr ⟨hnew hpath, hnodup⟩) ?_
      · omega
      · intro above habove
        obtain ⟨child, hchild, -⟩ := Relation.TransGen.head'_iff.mp (hpath above habove)
        exact lt_of_mem_children hchild
  | succ levels ih =>
      -- One level down, `id` is on the path, which makes up for the level that is used.
      intro child hchild
      refine ih (hknown id hid child hchild) (List.nodup_cons.mpr ⟨hnew hpath, hnodup⟩) ?_ ?_
      · intro above habove
        rcases List.mem_cons.mp habove with rfl | habove
        · exact Relation.TransGen.single hchild
        · exact (hpath above habove).tail hchild
      · rw [List.length_cons]
        omega

/-! ## Walks that end -/

/-- The children that are found are the whole chain: it meets no node twice, and all of its nodes
but the last have a link, so that they exist. -/
theorem Traversable.follows_children (h : dom.Traversable) (id : NodeId) :
    Follows (fun child => dom.nextSibling (some child)) (dom.firstChild (some id))
      (dom.children (some id)) := by
  obtain ⟨ids, hids⟩ := h.chain_ends id
  have hexist : ∀ child ∈ ids.dropLast, child < dom.size := by
    intro child hchild
    obtain ⟨behind, hbehind⟩ := hids.exists_next hchild
    exact lt_of_link hbehind
  have hlength := length_le_size (hids.nodup.sublist (List.dropLast_sublist ids)) hexist
  rw [List.length_dropLast] at hlength
  rw [children, chain_eq_of_follows hids (by omega)]
  exact hids

/-- All nodes above a node exist, so there are no more levels than nodes, and one for a node that
does not exist. -/
theorem Traversable.fits (h : dom.Traversable) (id : NodeId) : dom.Fits (dom.size + 1) id := by
  refine fits_of_path (fun _ => True) h.acyclic (fun _ _ _ _ => trivial) ?_ trivial
    List.nodup_nil (by simp) (Nat.le_refl _)
  intro id path _ hnodup hpath
  exact Nat.lt_succ_of_le (length_le_size hnodup.of_cons hpath)

/-- A property that a node has when its children have it holds of every node. -/
theorem Traversable.induction_on {motive : NodeId → Prop} (h : dom.Traversable) (id : NodeId)
    (step : ∀ id, (∀ child ∈ dom.children (some id), motive child) → motive id) : motive id := by
  have hall : ∀ levels id, dom.Fits levels id → motive id := by
    intro levels
    induction levels with
    | zero => exact fun _ hfits => hfits.elim
    | succ levels ih =>
        exact fun id hfits => step id fun child hchild => ih child (hfits child hchild)
  exact hall _ id (h.fits id)

/-! ## Links to later nodes -/

/-- The links down from a node and on to its next sibling lead to later nodes only. -/
def Forward (dom : Dom) : Prop :=
  ∀ id < dom.size, (∀ target ∈ dom.firstChild (some id), id < target) ∧
    ∀ target ∈ dom.nextSibling (some id), id < target

instance (dom : Dom) : Decidable dom.Forward :=
  inferInstanceAs (Decidable (∀ id < _, _ ∧ _))

/-- Links to first children go forward. -/
theorem Forward.lt_firstChild (h : dom.Forward) {target : NodeId}
    (htarget : dom.firstChild (some id) = some target) : id < target :=
  (h id (lt_of_link htarget)).1 target htarget

/-- Links to next siblings go forward. -/
theorem Forward.lt_nextSibling (h : dom.Forward) {target : NodeId}
    (htarget : dom.nextSibling (some id) = some target) : id < target :=
  (h id (lt_of_link htarget)).2 target htarget

/-- All nodes of a chain come later than what its first link comes later than. -/
theorem Forward.lt_of_mem_chain (h : dom.Forward) {limit : Nat} {link : Link} {child : NodeId}
    (hlink : ∀ target ∈ link, id < target) (hchild : child ∈ dom.chain limit link) :
    id < child := by
  induction limit generalizing link with
  | zero => cases hchild
  | succ limit ih =>
      cases link with
      | none => cases hchild
      | some head =>
          have hhead : id < head := hlink head rfl
          rw [chain, List.mem_cons] at hchild
          rcases hchild with rfl | hchild
          · exact hhead
          · refine ih (fun target htarget => ?_) hchild
            exact Nat.lt_trans hhead (h.lt_nextSibling htarget)

/-- Children come later than their parent. -/
theorem Forward.lt_of_mem_children (h : dom.Forward) {child : NodeId}
    (hchild : child ∈ dom.children (some id)) : id < child :=
  h.lt_of_mem_chain (fun _ htarget => h.lt_firstChild htarget) hchild

/-- Past the last node there is no link, and every link leads closer to that. -/
theorem Forward.exists_follows (h : dom.Forward) {count head : Nat}
    (hcount : dom.size ≤ head + count) : ∃ ids : List NodeId,
      Follows (fun child => dom.nextSibling (some child)) (some head) ids := by
  induction count generalizing head with
  | zero =>
      have hmissing : dom.get? (some head) = none := get?_eq_none_iff.mpr hcount
      refine ⟨[head], rfl, ?_⟩
      show dom.nextSibling (some head) = none
      rw [nextSibling, hmissing, Option.bind_none]
  | succ count ih =>
      cases hnext : dom.nextSibling (some head) with
      | none => exact ⟨[head], rfl, hnext⟩
      | some behind =>
          have hlt : head + 1 ≤ behind := h.lt_nextSibling hnext
          have hbehind : dom.size ≤ behind + count := by omega
          obtain ⟨ids, hids⟩ := ih hbehind
          rw [← hnext] at hids
          exact ⟨head :: ids, rfl, hids⟩

/-- A document whose links lead to later nodes only can be walked. -/
theorem Forward.traversable (h : dom.Forward) : dom.Traversable where
  chain_ends id := by
    cases hfirst : dom.firstChild (some id) with
    | none => exact ⟨[], rfl⟩
    | some head => exact h.exists_follows (Nat.le_add_left dom.size head)
  acyclic id hid := by
    have hdown : ∀ below, dom.Descends id below → id < below := by
      intro below hbelow
      induction hbelow with
      | single hmem => exact h.lt_of_mem_children hmem
      | tail _ hmem ih => exact Nat.lt_trans ih (h.lt_of_mem_children hmem)
    exact Nat.lt_irrefl id (hdown id hid)

/-! ## Well-formed documents -/

/-- What is below a node on the way down has it above on the way up. -/
theorem WellFormed.descends_iff (h : dom.WellFormed) {above : NodeId} :
    dom.Descends above id ↔ Below dom.parentOf id above := by
  have hunder : (fun above child => child ∈ dom.children (some above)) =
      Function.swap (Under dom.parentOf) := by
    funext above child
    exact propext h.mem_children
  rw [Descends, hunder, Relation.transGen_swap]
  rfl

/-- Well-formed documents can be walked. -/
theorem WellFormed.traversable (h : dom.WellFormed) : dom.Traversable where
  chain_ends id := by
    by_cases hid : id < dom.size
    · exact ⟨_, (h.follows_children hid).2.1⟩
    · refine ⟨[], ?_⟩
      rw [firstChild, get?_eq_none_iff.mpr (Nat.not_lt.mp hid)]
      rfl
  acyclic id hid := h.acyclic id (h.descends_iff.mp hid)

/-- A well-formed document has no more levels than nodes. -/
theorem WellFormed.fits (h : dom.WellFormed) (hid : id < dom.size) : dom.Fits dom.size id := by
  refine fits_of_path (· < dom.size) h.traversable.acyclic
    (fun id _ child hchild => lt_of_under (h.mem_children.mp hchild)) ?_ hid List.nodup_nil
    (by simp) (Nat.le_refl _)
  intro id path hid hnodup hpath
  refine length_le_size hnodup ?_
  intro above habove
  rcases List.mem_cons.mp habove with rfl | habove
  · exact hid
  · exact hpath above habove

end HtmlTemplate.Dom
