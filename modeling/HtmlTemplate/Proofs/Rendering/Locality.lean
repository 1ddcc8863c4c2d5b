import HtmlTemplate.Proofs.Dom.Frame
import HtmlTemplate.Proofs.Rendering.Composition

/-!
# Renderings of a subtree are local

What a rendering reads is at or below its root: documents that agree there have the same rendering
of it (`SameBelow.render_eq`). So whatever is done outside a subtree, be it that the subtree is
moved as a whole, its rendering, its text and the order of its nodes stay as they were
(`WellFormed.render_local`).
-/

namespace HtmlTemplate.Dom

variable {catalog : Catalog} {dom other : Dom} {id root : NodeId}

/-- The node has a form in both documents or in neither. -/
theorem SameBelow.formless?_eq (h : dom.SameBelow other root) :
    other.formless? root = dom.formless? root := by
  rw [formless?, formless?, kind?_eq, kind?_eq, h.payload_eq root .refl]

/-- The node is written the same in both documents, to any depth. -/
theorem SameBelow.write_eq (h : dom.SameBelow other root) (hwell : dom.WellFormed)
    (hroot : root < dom.size) (levels : Nat) (out : Rendering) :
    other.write catalog levels root out = dom.write catalog levels root out := by
  induction levels generalizing root out with
  | zero => rfl
  | succ levels ih =>
      have hitem : ∀ out, ∀ child ∈ dom.children (some root),
          other.writeItem (other.write catalog levels) out child =
            dom.writeItem (dom.write catalog levels) out child := by
        intro out child hchild
        have hbelow := h.of_child hwell hchild
        rw [writeItem, writeItem, hbelow.formless?_eq,
          ih hbelow (lt_of_under (hwell.mem_children.mp hchild))]
      have hitems := fun out => List.foldl_ext _ _ out hitem
      simp only [write, h.payload_eq root .refl, h.children_eq hwell hroot,
        h.textContent_eq hwell hroot, hitems]

/-- Documents that agree below a node have the same rendering of it. -/
theorem SameBelow.render_eq (h : dom.SameBelow other root) (hwell : dom.WellFormed)
    (hroot : root < dom.size) (catalog : Catalog) :
    other.render catalog (some root) = dom.render catalog (some root) := by
  have hfits := hwell.fits hroot
  have hwrite : other.write catalog (other.size + 1) root .empty =
      dom.write catalog (dom.size + 1) root .empty := by
    rw [h.write_eq hwell hroot, hfits.write_eq (Nat.le_succ_of_le h.size_le),
      ← hfits.write_eq (Nat.le_succ _)]
  simp only [render, hwrite]

/-- A run of edits that act outside the subtree of a node leaves what it is rendered as, which nodes
are left out, its text and its descendants as they were. -/
theorem WellFormed.render_local (h : dom.WellFormed) (catalog : Catalog) (hroot : root < dom.size)
    {edits : List Edit} (houtside : OutsideRun root dom edits) :
    let after := dom.edit edits
    (after.render catalog (some root)).content = (dom.render catalog (some root)).content ∧
      (after.render catalog (some root)).skipped = (dom.render catalog (some root)).skipped ∧
      after.textContent (some root) = dom.textContent (some root) ∧
      after.descendants (some root) = dom.descendants (some root) := by
  intro after
  have hsame := ((h.undisturbed root).run h hroot houtside).sameBelow
  have hrender := hsame.render_eq h hroot catalog
  exact ⟨congrArg (·.content) hrender, congrArg (·.skipped) hrender, hsame.textContent_eq h hroot,
    hsame.descendants_eq h hroot⟩

/-- Edits that move the item of a list in front of the list, with text and attributes added around
it. -/
def moveItemEdits : List Edit :=
  [.step (.detach (some 2)), .step (.insertBefore 1 2), .step (.appendText 0 "tail"),
    .addAttributes 1 [.plain "class" "bare"], .step (.detach (some 1))]

/-- The edits move the item and change what is around it, but nothing below it. -/
theorem outsideRun_moveItemEdits : OutsideRun 2 (Dom.empty.run listSteps) moveItemEdits := by
  refine ⟨?_, ⟨?_, by decide⟩, ⟨?_, by decide⟩, ?_, ?_, trivial⟩
  · rintro above ⟨⟩
    rw [descendants_eq_preorder (by decide)]
    decide
  · rintro above ⟨⟩
    rw [descendants_eq_preorder (by decide)]
    decide
  · rw [descendants_eq_preorder (by decide)]
    decide
  · show 1 ∉ _
    rw [descendants_eq_preorder (by decide)]
    decide
  · rintro above ⟨⟩
    rw [descendants_eq_preorder (by decide)]
    decide

/-- The item is the same source text where it stands now. -/
theorem render_local_item :
    let dom := Dom.empty.run listSteps
    let after := dom.edit moveItemEdits
    dom.WellFormed ∧ 2 < dom.size ∧ OutsideRun 2 dom moveItemEdits ∧
      dom.parentOf 2 = some 1 ∧ after.parentOf 2 = some 0 ∧
      (after.render .empty (some 2)).content = (dom.render .empty (some 2)).content ∧
      after.textContent (some 2) = dom.textContent (some 2) := by
  intro dom after
  have hwell : dom.WellFormed := wellFormed_empty.run validRun_listSteps
  have hroot : 2 < dom.size := by decide
  obtain ⟨hcontent, -, htext, -⟩ :=
    hwell.render_local .empty hroot outsideRun_moveItemEdits
  exact ⟨hwell, hroot, outsideRun_moveItemEdits, by decide, by decide, hcontent, htext⟩

end HtmlTemplate.Dom
