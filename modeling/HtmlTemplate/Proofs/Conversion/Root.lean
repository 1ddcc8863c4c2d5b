import HtmlTemplate.Conversion
import HtmlTemplate.Proofs.Dom.Order
import HtmlTemplate.Proofs.Dom.Run
import HtmlTemplate.Proofs.Rendering.Gaps

/-!
# The element that is converted

`convertDom` looks up an element by its name up to the case of letters, and renders it with its name
in lower case. Of several such elements it takes the first in document order, so the rendering
starts with the name that was asked for, in lower case. Where there is none, the error says which
name was asked for (`WellFormed.convertDom_root`).
-/

namespace HtmlTemplate.Dom

/-- A node is an element whose local name is `tag` up to the case of letters. -/
def Tagged (dom : Dom) (tag : String) (id : NodeId) : Prop :=
  ∃ name attributes, dom.payload? (some id) = some (.element name attributes) ∧
    Ascii.sameLetters name.localName tag = true

variable {catalog : Catalog} {dom : Dom} {id root : NodeId} {tag : String}

/-! ## Looking up an element -/

/-- The test of a search for elements of a name is whether a node is one. -/
theorem any_isTagged_iff : (dom.get? (some id)).any (isTagged tag) = true ↔ dom.Tagged tag id := by
  rw [Tagged, payload?]
  cases dom.get? (some id) with
  | none => simp
  | some node =>
      rw [Option.any_some, isTagged, Option.map_some]
      cases node.payload with
      | element name attributes => simp
      | _ => simp

/-- A tagged node is there. -/
theorem Tagged.lt_size (h : dom.Tagged tag id) : id < dom.size := by
  obtain ⟨name, attributes, hpayload, -⟩ := h
  refine Nat.not_le.mp fun hid => ?_
  rw [payload?, get?_eq_none_iff.mpr hid] at hpayload
  cases hpayload

/-- The element that is found is the first of its name in document order. -/
theorem WellFormed.findTag?_eq_some_iff (h : dom.WellFormed) :
    dom.findTag? tag = some id ↔ dom.IsFirst document (dom.Tagged tag) id := by
  have hcondition : dom.Tagged tag = fun id => (dom.get? (some id)).any (isTagged tag) = true :=
    funext fun _ => propext any_isTagged_iff.symm
  by_cases hdocument : document < dom.size
  · rw [findTag?, find?, h.find?_descendants hdocument, hcondition]
  · -- A document without nodes has no elements.
    rw [findTag?, find?, descendants_eq_nil (Nat.not_lt.mp hdocument)]
    exact ⟨nofun, fun hfirst => absurd (Nat.zero_lt_of_lt hfirst.fits.lt_size) hdocument⟩

/-- None is found where there is none. -/
theorem WellFormed.findTag?_eq_none_iff (h : dom.WellFormed) :
    dom.findTag? tag = none ↔ ∀ id, Within dom.parentOf id document → ¬ dom.Tagged tag id := by
  by_cases hdocument : document < dom.size
  · rw [findTag?, find?, List.find?_eq_none]
    refine forall_congr' fun id => ?_
    rw [h.mem_descendants hdocument, any_isTagged_iff]
  · rw [findTag?, find?, descendants_eq_nil (Nat.not_lt.mp hdocument)]
    exact ⟨fun _ id _ htagged => hdocument (Nat.zero_lt_of_lt htagged.lt_size), fun _ => rfl⟩

/-! ## Rendering an element -/

/-- The text of the tree of an element begins with its header. -/
theorem WellFormed.print_of_element (h : dom.WellFormed) {name : QualifiedName}
    {attributes : List Attribute} {tree : Source}
    (hpayload : dom.payload? (some id) = some (.element name attributes))
    (htree : dom.source? catalog id = some tree) :
    ∃ rest, tree.print = Source.printHeader (Ascii.lower name.localName)
      (attributes.map (attributeSource catalog)) ++ rest := by
  rw [h.traversable.source?_eq, hpayload, Option.bind_some, payloadSource] at htree
  cases hkind : catalog.tagKind (Ascii.lower name.localName) with
  | void =>
      simp only [hkind, Option.some.injEq] at htree
      exact ⟨[], by rw [← htree, Source.print, List.append_nil]⟩
  | text =>
      simp only [hkind, Option.some.injEq] at htree
      exact ⟨_, by rw [← htree, Source.print]⟩
  | normal =>
      simp only [hkind, Option.some.injEq] at htree
      exact ⟨_, by rw [← htree, Source.print, List.append_assoc]⟩

/-- The rendering of an element begins with its name in lower case and does not leave it out. -/
theorem WellFormed.render_tagged (h : dom.WellFormed) (catalog : Catalog)
    (htagged : dom.Tagged tag id) :
    (∃ rest, (dom.render catalog (some id)).content = Ascii.lower tag ++ " [" ++ rest) ∧
      ∀ entry ∈ (dom.render catalog (some id)).skipped, entry.id ≠ id := by
  have hid := htagged.lt_size
  obtain ⟨name, attributes, hpayload, hname⟩ := htagged
  have hkind : dom.kind? (some id) = some .element := by
    rw [kind?_eq, hpayload]
    rfl
  constructor
  · have hform : dom.formless? id = none := by
      rw [formless?, hkind]
      rfl
    obtain ⟨tree, htree, hprint⟩ := h.exists_source? catalog hid hform
    obtain ⟨rest, hrest⟩ := h.print_of_element hpayload htree
    refine ⟨String.ofList (((attributes.map (attributeSource catalog)).flatMap
      Source.printAttribute) ++ [']', ' '] ++ rest), ?_⟩
    rw [← String.toList_inj, hprint, hrest, Source.printHeader, Ascii.sameLetters_iff.mp hname]
    simp
  · rintro entry hentry rfl
    have hleft := leftOut?_of_mem_skipped hentry
    rw [leftOut?, hkind] at hleft
    cases hleft

end HtmlTemplate.Dom

namespace HtmlTemplate

open Dom

variable {dom : Dom}

/-- The element that is found is the first in document order whose name is the one asked for up to
the case of letters. The conversion fails when there is none, with the name asked for as it is, and
else gives the rendering of that element. -/
theorem Dom.WellFormed.convertDom_root (h : dom.WellFormed) (tag : String) :
    (∀ id, dom.findTag? tag = some id ↔ dom.IsFirst document (dom.Tagged tag) id) ∧
    (dom.findTag? tag = none ↔ ∀ id, Within dom.parentOf id document → ¬ dom.Tagged tag id) ∧
    (∀ error, convertDom dom tag = .error error ↔
      dom.findTag? tag = none ∧ error = .rootNotFound tag) ∧
    ∀ id, dom.findTag? tag = some id →
      ∃ out, convertDom dom tag = .ok out ∧
        (∃ rest, out.content = Ascii.lower tag ++ " [" ++ rest) ∧
        ∀ entry ∈ out.skipped, entry.id ≠ id := by
  refine ⟨fun id => h.findTag?_eq_some_iff, h.findTag?_eq_none_iff, fun error => ?_, ?_⟩
  · rw [convertDom]
    cases dom.findTag? tag with
    | none => simp [eq_comm]
    | some id => simp
  · intro id hfind
    have htagged := (h.findTag?_eq_some_iff.mp hfind).fits
    refine ⟨dom.render .standard (some id), ?_, h.render_tagged .standard htagged⟩
    rw [convertDom, hfind]

/-- The steps that make a paragraph and put another one before it. -/
def paragraphSteps : List Step :=
  [.create (.element (.html "p") []), .append 0 1, .create (.element (.html "P") []),
    .insertBefore 1 2]

/-- Of the two paragraphs the one that was put before the other is converted. -/
theorem convertDom_root_paragraph :
    let dom := Dom.empty.run paragraphSteps
    dom.WellFormed ∧ dom.findTag? "p" = some 2 ∧
      ∃ out, convertDom dom "p" = .ok out ∧
        (∃ rest, out.content = Ascii.lower "p" ++ " [" ++ rest) ∧
        ∀ entry ∈ out.skipped, entry.id ≠ 2 := by
  intro dom
  have hvalid : Dom.empty.ValidRun paragraphSteps := validRun_of_check (by decide)
  have hwell : dom.WellFormed := wellFormed_empty.run hvalid
  have hfind : dom.findTag? "p" = some 2 := by
    rw [findTag?, find?, descendants_eq_preorder (by decide)]
    decide
  exact ⟨hwell, hfind, (hwell.convertDom_root "p").2.2.2 2 hfind⟩

end HtmlTemplate
