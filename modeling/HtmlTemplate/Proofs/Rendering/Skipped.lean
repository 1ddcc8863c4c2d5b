import HtmlTemplate.Proofs.Dom.Moves
import HtmlTemplate.Proofs.Dom.Order
import HtmlTemplate.Proofs.Rendering.Alike

/-!
# What a rendering leaves out

The nodes that a rendering lists as left out leave no trace in the text: without them the text is
the same and nothing is left out (`WellFormed.render_detach_skipped`). They are the nodes without a
form among those that open elements lead to (`WellFormed.mem_skipped_iff`), so below an open element
they are all its children without a form, and below any other there are none. That is passed on from
a node to its children (`LeavesOut.of_child`), and so a node without them is alike to itself as it
was.
-/

namespace HtmlTemplate.Dom

/-- Of the nodes within `root`, `ids` are the ones that a rendering of `root` leaves out. -/
def LeavesOut (catalog : Catalog) (dom : Dom) (ids : List NodeId) (root : NodeId) : Prop :=
  ∀ id, Within dom.parentOf id root →
    (id ∈ ids ↔ id ∈ dom.reached catalog root ∧ dom.formless? id ≠ none)

variable {catalog : Catalog} {dom : Dom} {ids : List NodeId} {id root child : NodeId}

/-! ## The nodes that are listed -/

/-- A node is listed under its own number, if it has no form. -/
theorem leftOut?_eq (dom : Dom) (id : NodeId) :
    dom.leftOut? id = (dom.formless? id).map (Skipped.mk id) := by
  rw [leftOut?, formless?]
  cases dom.kind? (some id) with
  | none => rfl
  | some kind => cases kind <;> rfl

/-- The nodes that are listed are those without a form among the nodes that are treated. -/
theorem WellFormed.skipped_eq_reached (h : dom.WellFormed) (catalog : Catalog)
    (hroot : root < dom.size) :
    (dom.render catalog (some root)).skipped =
      (dom.reached catalog root).filterMap dom.leftOut? := by
  rw [skipped_render, h.visited_events hroot ((h.fits hroot).mono (Nat.le_succ _))]

/-- The nodes that are listed are those that open elements lead to and that have no form. -/
theorem WellFormed.mem_skipped_iff (h : dom.WellFormed) (hroot : root < dom.size) :
    id ∈ (dom.render catalog (some root)).skipped.map (·.id) ↔
      id ∈ dom.reached catalog root ∧ dom.formless? id ≠ none := by
  rw [h.skipped_eq_reached catalog hroot, List.mem_map]
  constructor
  · rintro ⟨entry, hentry, rfl⟩
    obtain ⟨id, hid, hleft⟩ := List.mem_filterMap.mp hentry
    rw [id_of_leftOut? hleft]
    rw [leftOut?_eq] at hleft
    obtain ⟨kind, hkind, -⟩ := Option.map_eq_some_iff.mp hleft
    exact ⟨hid, hkind ▸ Option.some_ne_none kind⟩
  · rintro ⟨hid, hform⟩
    obtain ⟨kind, hkind⟩ := Option.ne_none_iff_exists'.mp hform
    refine ⟨⟨id, kind⟩, List.mem_filterMap.mpr ⟨id, hid, ?_⟩, rfl⟩
    rw [leftOut?_eq, hkind]
    rfl

/-! ## From a node to its children -/

/-- A node is reached as the root itself, or from a child of an open root. -/
theorem WellFormed.reached_cases (h : dom.WellFormed) (hroot : root < dom.size)
    (hid : id ∈ dom.reached catalog root) :
    id = root ∨ dom.isOpen catalog root = true ∧
      ∃ child ∈ dom.children (some root), id ∈ dom.reached catalog child := by
  obtain ⟨hwithin, hleads⟩ := (h.mem_reached hroot).mp hid
  rcases h.within_cases hwithin with rfl | ⟨child, hchild, hdown⟩
  · exact .inl rfl
  · have hopen := hleads root (.tail' hdown (h.mem_children.mp hchild)) .refl
    exact .inr ⟨hopen, child, hchild, (h.mem_reached_iff_of_child hopen hchild hdown).mp hid⟩

/-- What a rendering of an open element leaves out within a child is what a rendering of the child
leaves out. -/
theorem LeavesOut.of_child (hout : LeavesOut catalog dom ids root) (h : dom.WellFormed)
    (hopen : dom.isOpen catalog root = true) (hchild : child ∈ dom.children (some root)) :
    LeavesOut catalog dom ids child := by
  intro id hid
  rw [hout id (hid.tail (h.mem_children.mp hchild)), h.mem_reached_iff_of_child hopen hchild hid]

/-- Of the children of an open element, `ids` are those without a form. -/
theorem LeavesOut.filter_children (hout : LeavesOut catalog dom ids root) (h : dom.WellFormed)
    (hopen : dom.isOpen catalog root = true) :
    (dom.children (some root)).filter (· ∉ ids) =
      (dom.children (some root)).filter dom.hasForm := by
  refine List.filter_congr fun child hchild => ?_
  have hunder := h.mem_children.mp hchild
  have hreached : child ∈ dom.reached catalog root :=
    (h.mem_reached_iff_of_child hopen hchild .refl).mpr (h.mem_reached_self (lt_of_under hunder))
  rw [Bool.eq_iff_iff, decide_eq_true_iff, hasForm_iff (lt_of_under hunder),
    hout child (.single hunder), and_iff_right hreached, not_not]

/-- Below any other node, `ids` has nothing. -/
theorem LeavesOut.not_mem_of_closed (hout : LeavesOut catalog dom ids root) (h : dom.WellFormed)
    (hroot : root < dom.size) (hclosed : dom.isOpen catalog root = false)
    (hid : Below dom.parentOf id root) : id ∉ ids := by
  intro hmem
  obtain ⟨hreached, -⟩ := (hout id hid.to_reflTransGen).mp hmem
  have hopen := ((h.mem_reached hroot).mp hreached).2 root hid .refl
  rw [hclosed] at hopen
  cases hopen

/-! ## The document without them -/

/-- What is below a node that is no open element stays, and so does its text. -/
theorem LeavesOut.textContent_eq (hout : LeavesOut catalog dom ids root) (h : dom.WellFormed)
    (hroot : root < dom.size) (hclosed : dom.isOpen catalog root = false) :
    (dom.run (detachSteps ids)).textContent (some root) = dom.textContent (some root) := by
  obtain ⟨hsize, hpayload⟩ := run_of_onlyMoves dom (onlyMoves_detachSteps ids)
  have hchildren : ∀ id, Within dom.parentOf id root →
      (dom.run (detachSteps ids)).children (some id) = dom.children (some id) := by
    intro id hid
    rw [h.children_run_detachSteps, List.filter_eq_self]
    intro child hchild
    have hbelow : Below dom.parentOf child root := .head' (h.mem_children.mp hchild) hid
    exact decide_eq_true (hout.not_mem_of_closed h hroot hclosed hbelow)
  have hsame := h.descendants_eq_of_children (h.run (validRun_detachSteps dom ids)) hsize hroot
    hchildren
  simp only [textContent, hsame, text?, hpayload]

/-- Taking nodes out changes no form. -/
theorem hasForm_run_detachSteps (dom : Dom) (ids : List NodeId) :
    (dom.run (detachSteps ids)).hasForm = dom.hasForm := by
  funext id
  rw [hasForm, hasForm, kind?_eq, kind?_eq, (run_of_onlyMoves dom (onlyMoves_detachSteps ids)).2]

/-- Taking nodes out changes no kind of content. -/
theorem isOpen_run_detachSteps (dom : Dom) (ids : List NodeId) (id : NodeId) :
    (dom.run (detachSteps ids)).isOpen catalog id = dom.isOpen catalog id := by
  rw [isOpen, isOpen, (run_of_onlyMoves dom (onlyMoves_detachSteps ids)).2]

/-- An open element has those children left that have a form. -/
theorem LeavesOut.children_run (hout : LeavesOut catalog dom ids root) (h : dom.WellFormed)
    (hopen : dom.isOpen catalog root = true) :
    (dom.run (detachSteps ids)).children (some root) =
      (dom.children (some root)).filter dom.hasForm := by
  rw [h.children_run_detachSteps, hout.filter_children h hopen]

/-- A node with a form is alike to what is left of it. -/
theorem LeavesOut.alike (hout : LeavesOut catalog dom ids root) (h : dom.WellFormed)
    (hform : dom.hasForm root = true) :
    Alike catalog dom (dom.run (detachSteps ids)) root root := by
  refine h.induction_on (motive := fun root => LeavesOut catalog dom ids root →
    dom.hasForm root = true → Alike catalog dom (dom.run (detachSteps ids)) root root)
    (exists_of_hasForm hform).1 ?_ hout hform
  intro root hroot ih hout hform
  have hsame := (run_of_onlyMoves dom (onlyMoves_detachSteps ids)).2 root
  rw [hasForm, kind?_eq] at hform
  cases hpayload : dom.payload? (some root) with
  | none =>
      rw [hpayload] at hform
      cases hform
  | some payload =>
      rw [hpayload] at hsame
      cases payload with
      | text content => exact .text hpayload hsame
      | comment content => exact .comment hpayload hsame
      | element name attributes =>
          have hopen : dom.isOpen catalog root =
              decide (catalog.tagKind (Ascii.lower name.localName) = .normal) := by
            rw [isOpen, hpayload]
          refine .element hpayload hsame (Ascii.sameLetters_iff.mpr rfl)
            (List.forall₂_same.mpr fun attr _ => ?_) (fun hkind => ?_) (fun hkind => ?_)
          · exact ⟨rfl, by rw [Literal.SameValue]; split <;> trivial⟩
          · rw [hkind] at hopen
            exact (hout.textContent_eq h hroot hopen).symm
          · rw [hkind] at hopen
            rw [hasForm_run_detachSteps, hout.children_run h hopen, List.filter_filter]
            simp only [Bool.and_self]
            refine List.forall₂_same.mpr fun child hchild => ?_
            obtain ⟨hchild, hform⟩ := List.mem_filter.mp hchild
            exact ih child hchild (hout.of_child h hopen hchild) hform
      | _ =>
          rw [hpayload] at hform
          cases hform

/-- Everything that is still reached has a form. -/
theorem LeavesOut.hasForm_of_mem_reached (hout : LeavesOut catalog dom ids root)
    (h : dom.WellFormed) (hform : dom.hasForm root = true)
    (hid : id ∈ (dom.run (detachSteps ids)).reached catalog root) : dom.hasForm id = true := by
  have hafter := h.run (validRun_detachSteps dom ids)
  have hsize := (run_of_onlyMoves dom (onlyMoves_detachSteps ids)).1
  refine h.induction_on (motive := fun root => LeavesOut catalog dom ids root →
    dom.hasForm root = true → id ∈ (dom.run (detachSteps ids)).reached catalog root →
    dom.hasForm id = true) (exists_of_hasForm hform).1 ?_ hout hform hid
  intro root hroot ih hout hform hid
  rcases hafter.reached_cases (hsize ▸ hroot) hid with rfl | ⟨hopen, child, hchild, hid⟩
  · exact hform
  · rw [isOpen_run_detachSteps] at hopen
    rw [hout.children_run h hopen] at hchild
    obtain ⟨hchild, hform⟩ := List.mem_filter.mp hchild
    exact ih child hchild (hout.of_child h hopen hchild) hform hid

/-- Without the nodes that a rendering of a node with a form leaves out, however they are taken out
one after the other, the node has the same source text, and nothing is left out. -/
theorem WellFormed.render_detach_skipped (h : dom.WellFormed) (catalog : Catalog)
    (hform : dom.hasForm root = true)
    (hids : ids.Perm ((dom.render catalog (some root)).skipped.map (·.id))) :
    let after := dom.run (detachSteps ids)
    after.WellFormed ∧
      (after.render catalog (some root)).content = (dom.render catalog (some root)).content ∧
      (after.render catalog (some root)).skipped = [] := by
  intro after
  have hafter : after.WellFormed := h.run (validRun_detachSteps dom ids)
  have hsize : after.size = dom.size := (run_of_onlyMoves dom (onlyMoves_detachSteps ids)).1
  obtain ⟨hroot, hnone⟩ := exists_of_hasForm hform
  have hafterRoot : root < after.size := hsize ▸ hroot
  have hafterForm : after.hasForm = dom.hasForm := hasForm_run_detachSteps dom ids
  have hout : LeavesOut catalog dom ids root := fun id _ =>
    hids.mem_iff.trans (h.mem_skipped_iff hroot)
  refine ⟨hafter, ?_, ?_⟩
  · obtain ⟨tree, htree, hprint⟩ := h.exists_source? catalog hroot hnone
    have hafterTree : after.source? catalog root = some tree := by
      rw [← h.source?_eq_of_alike hafter hroot (hout.alike h hform), htree]
    rw [← String.toList_inj, hprint, hafter.toList_content_render hafterRoot hafterTree]
  · rw [hafter.skipped_eq_reached catalog hafterRoot, List.filterMap_eq_nil_iff]
    intro id hid
    have hidForm : after.hasForm id = true := by
      rw [hafterForm]
      exact hout.hasForm_of_mem_reached h hform hid
    rw [leftOut?_eq, (exists_of_hasForm hidForm).2]
    rfl

/-- The steps that make a list of a document type, which has a text below it, and of an item that
holds an instruction between two texts. -/
def declarationSteps : List Step :=
  [.create (.element (.html "ul") []), .append 0 1, .create (.doctype "html" "" ""), .append 1 2,
    .create (.text "unseen"), .append 2 3, .create (.element (.html "li") []), .append 1 4,
    .create (.text "left"), .append 4 5, .create (.instruction "xml" ""), .append 4 6,
    .create (.text "right"), .append 4 7]

/-- The document is built by valid steps. -/
theorem validRun_declarationSteps : Dom.empty.ValidRun declarationSteps :=
  validRun_of_check (by decide)

/-- The instruction is taken out of the item first, and then the document type out of the list. -/
theorem render_detach_skipped_list :
    let dom := Dom.empty.run declarationSteps
    let after := dom.run (detachSteps [6, 2])
    dom.WellFormed ∧ dom.hasForm 1 = true ∧
      [6, 2].Perm ((dom.render .empty (some 1)).skipped.map (·.id)) ∧ after.WellFormed ∧
      (after.render .empty (some 1)).content = (dom.render .empty (some 1)).content ∧
      (after.render .empty (some 1)).skipped = [] := by
  intro dom after
  have hwell : dom.WellFormed := wellFormed_empty.run validRun_declarationSteps
  have hform : dom.hasForm 1 = true := by decide
  have hids : [6, 2].Perm ((dom.render .empty (some 1)).skipped.map (·.id)) := by
    rw [skipped_render]
    decide
  exact ⟨hwell, hform, hids, hwell.render_detach_skipped .empty hform hids⟩

end HtmlTemplate.Dom
