import HtmlTemplate.Markup.Document
import HtmlTemplate.Proofs.Dom.Run

/-!
# Texts that are apart

`Dom.TextsApart` says that no text stands right behind another. Text put at the end of a node keeps
it so, since it is added to a last child that is a text. Text put before a sibling always becomes a
node of its own, so it keeps texts apart only where no text stands right before the sibling
(`Draft.textsApart_text`). Text before a table and text misplaced in the table meet in this way
(`Draft.texts_meet`).
-/

namespace HtmlTemplate

/-! ## Texts of a forest -/

namespace Forest

/-- A node is a text. -/
def IsText (forest : Forest) (id : NodeId) : Prop :=
  ∃ content, forest.payloads[id]? = some (.text content)

/-- No text stands right behind another. -/
def TextsApart (forest : Forest) : Prop :=
  ∀ id behind, forest.next id = some behind → forest.IsText id → ¬ forest.IsText behind

variable {forest : Forest} {above child sibling id : NodeId}

/-- A new node leaves the others texts or not. -/
theorem isText_create_of_ne {payload : Payload} (hid : id ≠ forest.size) :
    (forest.create payload).IsText id ↔ forest.IsText id := by
  rw [IsText, getElem?_payloads_create, if_neg hid, IsText]

/-- A new text is a text. -/
theorem isText_create_text (forest : Forest) (content : String) :
    (forest.create (.text content)).IsText forest.size :=
  ⟨content, by rw [getElem?_payloads_create, if_pos rfl]⟩

/-- A node that is new is next to none. -/
theorem Proper.textsApart_create (h : forest.Proper) (hapart : forest.TextsApart)
    (payload : Payload) : (forest.create payload).TextsApart := by
  intro id behind hnext hid hbehind
  have hnext : forest.next id = some behind := hnext
  cases hparent : forest.parent id with
  | none =>
      rw [next_of_root hparent] at hnext
      cases hnext
  | some above =>
      have hlt := h.child_lt hparent
      have hbehindLt := h.child_lt (h.under_of_next hparent hnext)
      exact hapart id behind hnext ((isText_create_of_ne (Nat.ne_of_lt hlt)).mp hid)
        ((isText_create_of_ne (Nat.ne_of_lt hbehindLt)).mp hbehind)

/-- The payloads of nodes do not depend on where they stand. -/
theorem isText_insertBefore :
    (forest.insertBefore sibling child).IsText id ↔ forest.IsText id := by
  rw [IsText, insertBefore]
  split <;> rfl

/-- A node may be put behind a last child unless both are texts. -/
theorem Proper.textsApart_append (h : forest.Proper) (hapart : forest.TextsApart)
    (hroot : forest.parent child = none)
    (hlast : ∀ last, (forest.children above).getLast? = some last → forest.IsText last →
      ¬ forest.IsText child) : (forest.append above child).TextsApart := by
  intro id behind hnext
  rw [h.next_append hroot] at hnext
  split_ifs at hnext with hid
  · cases hnext
    exact hlast id hid
  · exact hapart id behind hnext

/-- A node may be put before a sibling unless it comes to stand next to a text and is one. -/
theorem Proper.textsApart_insertBefore (h : forest.Proper) (hapart : forest.TextsApart)
    (hsibling : forest.parent sibling = some above) (hroot : forest.parent child = none) :
    (forest.insertBefore sibling child).TextsApart ↔
      (∀ before, forest.prev sibling = some before → forest.IsText before →
        ¬ forest.IsText child) ∧ (forest.IsText child → ¬ forest.IsText sibling) := by
  have hapart' : (forest.insertBefore sibling child).TextsApart ↔
      ∀ id behind, (forest.insertBefore sibling child).next id = some behind →
        forest.IsText id → ¬ forest.IsText behind := by
    simp only [TextsApart, isText_insertBefore]
  rw [hapart']
  simp only [h.next_insertBefore hsibling hroot]
  constructor
  · intro hmeet
    refine ⟨fun before hbefore => hmeet before child (if_pos hbefore), hmeet child sibling ?_⟩
    -- The new node stood nowhere, so it is not what precedes the sibling.
    have hne : forest.prev sibling ≠ some child := fun hprev =>
      Option.some_ne_none _ ((h.under_of_prev hsibling hprev).symm.trans hroot)
    rw [if_neg hne, if_pos rfl]
  · rintro ⟨hbefore, hbehind⟩ id behind hnext
    split_ifs at hnext with hprev hid
    · cases hnext
      exact hbefore id hprev
    · cases hnext
      rw [hid]
      exact hbehind
    · exact hapart id behind hnext

/-- Another text in place of a text is next to the same nodes. -/
theorem textsApart_setPayload (hapart : forest.TextsApart) (hid : forest.IsText id)
    (content : String) : (forest.setPayload id (.text content)).TextsApart := by
  have hsame : ∀ other,
      (forest.setPayload id (.text content)).IsText other → forest.IsText other := by
    rintro other ⟨found, hfound⟩
    rw [setPayload, List.getElem?_set] at hfound
    split_ifs at hfound with heq
    · exact heq ▸ hid
    · exact ⟨found, hfound⟩
  intro first behind hnext hfirst hbehind
  exact hapart first behind hnext (hsame first hfirst) (hsame behind hbehind)

/-- If there is no last text, the last child is no text. -/
theorem not_isText_of_lastText? {last : NodeId} (h : forest.lastText? above = none)
    (hlast : (forest.children above).getLast? = some last) : ¬ forest.IsText last := by
  rintro ⟨old, hold⟩
  simp [lastText?, hlast, hold] at h

/-- Text put at the end of a node joins a text that is there. -/
theorem Proper.textsApart_appendText (h : forest.Proper) (hapart : forest.TextsApart)
    (above : NodeId) (text : String) : (forest.appendText above text).TextsApart := by
  rw [appendText]
  cases hfound : forest.lastText? above with
  | some found =>
      obtain ⟨last, -, hlast⟩ := Option.bind_eq_some_iff.mp hfound
      split at hlast
      · next old hold =>
          cases hlast
          exact textsApart_setPayload hapart ⟨old, hold⟩ (old ++ text)
      · cases hlast
  | none =>
      refine (h.create (.text text)).textsApart_append (h.textsApart_create hapart _)
        (h.parent_eq_none (Nat.le_refl _)) fun last hlast htext _ => ?_
      have hlt := h.child_lt (h.mem_children.mp (List.mem_of_getLast? hlast))
      exact not_isText_of_lastText? hfound hlast
        ((isText_create_of_ne (Nat.ne_of_lt hlt)).mp htext)

/-- Text put before a sibling that is no text meets no other text if none stands before the
sibling. -/
theorem Proper.textsApart_insertText (h : forest.Proper) (hapart : forest.TextsApart)
    (hsibling : forest.parent sibling = some above) (hkind : ¬ forest.IsText sibling)
    (text : String) :
    ((forest.create (.text text)).insertBefore sibling forest.size).TextsApart ↔
      ∀ before, forest.prev sibling = some before → ¬ forest.IsText before := by
  have hlt : ∀ {id}, forest.parent id = some above → id ≠ forest.size :=
    fun hparent => Nat.ne_of_lt (h.child_lt hparent)
  have hnew : (forest.create (.text text)).IsText forest.size := isText_create_text forest text
  rw [(h.create (.text text)).textsApart_insertBefore (h.textsApart_create hapart _) hsibling
    (h.parent_eq_none (Nat.le_refl _)), isText_create_of_ne (hlt hsibling)]
  constructor
  · rintro ⟨hbefore, -⟩ before hprev htext
    have hne := hlt (h.under_of_prev hsibling hprev)
    exact hbefore before hprev ((isText_create_of_ne hne).mpr htext) hnew
  · refine fun hbefore => ⟨fun before hprev htext _ => ?_, fun _ => hkind⟩
    have hne := hlt (h.under_of_prev hsibling hprev)
    exact hbefore before hprev ((isText_create_of_ne hne).mp htext)

end Forest

/-! ## Texts of a document -/

namespace Dom

/-- No text stands right behind another under one parent. -/
def TextsApart (dom : Dom) : Prop :=
  ∀ id behind, dom.nextSibling (some id) = some behind → dom.kind? (some id) = some .text →
    dom.kind? (some behind) ≠ some .text

variable {dom : Dom} {forest : Forest} {above sibling : NodeId}

/-- It is enough to look at the nodes that exist. -/
theorem textsApart_iff :
    dom.TextsApart ↔ ∀ id < dom.size, ∀ behind ∈ dom.nextSibling (some id),
      dom.kind? (some id) = some .text → dom.kind? (some behind) ≠ some .text := by
  refine ⟨fun h id _ behind hnext => h id behind hnext, fun h id behind hnext => ?_⟩
  have hid : id < dom.size := by
    refine Nat.not_le.mp fun hid => ?_
    rw [nextSibling, get?_eq_none_iff.mpr hid] at hnext
    cases hnext
  exact h id hid behind hnext

instance : Decidable dom.TextsApart :=
  decidable_of_iff' _ textsApart_iff

/-- The texts of a document are those of the forest that it stores. -/
theorem Stores.isText_iff (h : dom.Stores forest) (id : NodeId) :
    dom.kind? (some id) = some .text ↔ forest.IsText id := by
  rw [kind?_eq, h.payload_eq, Forest.IsText]
  cases forest.payloads[id]? with
  | none => simp
  | some payload => cases payload <;> simp [Payload.kind]

/-- Texts are apart in a document when they are in the forest that it stores. -/
theorem Stores.textsApart_iff (h : dom.Stores forest) : dom.TextsApart ↔ forest.TextsApart := by
  have hnext : ∀ id, dom.nextSibling (some id) = forest.next id :=
    fun id => (h.links_eq id).2.2.2.2
  simp only [TextsApart, Forest.TextsApart, hnext, ne_eq, h.isText_iff]

/-- Texts that are apart stay so when text is put at the end of a node. -/
theorem WellFormed.textsApart_appendText (h : dom.WellFormed) (hapart : dom.TextsApart)
    (habove : above < dom.size) (text : String) :
    (dom.appendText (some above) text).TextsApart := by
  have hafter := h.stores.appendText (size_forest dom ▸ habove) text
  rw [hafter.textsApart_iff]
  exact h.proper.textsApart_appendText (h.stores.textsApart_iff.mp hapart) above text

/-- When text is put before a sibling, they stay so if what precedes the sibling is no text. -/
theorem WellFormed.textsApart_insertText (h : dom.WellFormed) (hapart : dom.TextsApart)
    (hsibling : dom.parentOf sibling = some above) (hkind : dom.kind? (some sibling) ≠ some .text)
    (text : String) :
    ((dom.create (.text text)).1.insertBefore (some sibling) (some dom.size)).TextsApart ↔
      dom.kind? (dom.prevSibling (some sibling)) ≠ some .text := by
  have hattached : dom.parentOf sibling ≠ none := hsibling ▸ Option.some_ne_none above
  have hvalid : dom.ValidRun [.create (.text text), .insertBefore sibling dom.size] :=
    ⟨trivial, h.valid_insertBefore_new hattached _, trivial⟩
  have hafter : ((dom.create (.text text)).1.insertBefore (some sibling) (some dom.size)).Stores
      ((dom.forest.create (.text text)).insertBefore sibling dom.size) := h.stores.run hvalid
  have hmeet := h.proper.textsApart_insertText (h.stores.textsApart_iff.mp hapart) hsibling
    ((h.stores.isText_iff sibling).not.mp hkind) text
  rw [size_forest] at hmeet
  rw [hafter.textsApart_iff, hmeet, h.prev_forest]
  cases dom.prevSibling (some sibling) with
  | none => simp [kind?]
  | some before => simp [h.stores.isText_iff]

end Dom

/-! ## Text put into a draft -/

namespace Draft

variable {draft : Draft}

/-- Text put at the end of a node keeps texts apart. Text put before a sibling that is no text does
so just if no text stands right before the sibling. Text put beside an element does the same as text
put before it, and where the element stands nowhere, no text stands before it. -/
theorem textsApart_text (h : draft.dom.WellFormed) (hapart : draft.dom.TextsApart)
    (text : String) :
    (∀ parent < draft.dom.size, (draft.append (some parent) (.text text)).dom.TextsApart) ∧
    (∀ sibling, draft.dom.parentOf sibling ≠ none → draft.dom.kind? (some sibling) ≠ some .text →
      ((draft.insertBefore (some sibling) (.text text)).dom.TextsApart ↔
        draft.dom.kind? (draft.dom.prevSibling (some sibling)) ≠ some .text)) ∧
    ∀ element previous, previous < draft.dom.size →
      draft.dom.kind? (some element) ≠ some .text →
      ((draft.appendBeside (some element) (some previous) (.text text)).dom.TextsApart ↔
        draft.dom.kind? (draft.dom.prevSibling (some element)) ≠ some .text) := by
  have happend : ∀ parent < draft.dom.size,
      (draft.append (some parent) (.text text)).dom.TextsApart :=
    fun parent hparent => h.textsApart_appendText hapart hparent text
  have hinsert : ∀ sibling, draft.dom.parentOf sibling ≠ none →
      draft.dom.kind? (some sibling) ≠ some .text →
      ((draft.insertBefore (some sibling) (.text text)).dom.TextsApart ↔
        draft.dom.kind? (draft.dom.prevSibling (some sibling)) ≠ some .text) := by
    intro sibling hattached hkind
    obtain ⟨above, habove⟩ := Option.ne_none_iff_exists'.mp hattached
    exact h.textsApart_insertText hapart habove hkind text
  refine ⟨happend, hinsert, fun element previous hprevious hkind => ?_⟩
  rw [appendBeside]
  split
  · next hparent => exact hinsert element (Option.isSome_iff_ne_none.mp hparent) hkind
  · next hparent =>
      rw [Option.not_isSome_iff_eq_none] at hparent
      have hprev : draft.dom.prevSibling (some element) = none := by
        rw [← h.prev_forest, Forest.prev_of_root hparent]
      rw [hprev]
      exact iff_of_true (happend previous hprevious) nofun

/-- The steps that make a paragraph with text, a table and a line in it. -/
def tableSteps : List Step :=
  [.create (.element (.html "p") []), .append 0 1, .appendText 1 "a",
    .create (.element (.html "table") []), .append 1 3, .create (.element (.html "hr") []),
    .append 1 4]

/-- Text put behind the line, or before it, is next to no other text. -/
theorem textsApart_text_line :
    let draft : Draft := { dom := Dom.empty.run tableSteps }
    draft.dom.WellFormed ∧ draft.dom.TextsApart ∧
      (draft.append (some 1) (.text "b")).dom.TextsApart ∧
      (draft.insertBefore (some 4) (.text "b")).dom.TextsApart ∧
      (draft.appendBeside (some 4) (some 1) (.text "b")).dom.TextsApart := by
  intro draft
  have hvalid : Dom.empty.ValidRun tableSteps := Dom.validRun_of_check (by decide)
  have hwell : draft.dom.WellFormed := Dom.wellFormed_empty.run hvalid
  have hapart : draft.dom.TextsApart := by decide
  obtain ⟨happend, hinsert, hbeside⟩ := draft.textsApart_text hwell hapart "b"
  exact ⟨hwell, hapart, happend 1 (by decide),
    (hinsert 4 (by decide) (by decide)).mpr (by decide),
    (hbeside 4 1 (by decide) (by decide)).mpr (by decide)⟩

/-- Text put before the table stands right behind the text of the paragraph. -/
theorem texts_meet :
    let draft : Draft := { dom := Dom.empty.run tableSteps }
    draft.dom.WellFormed ∧ draft.dom.TextsApart ∧
      draft.dom.parentOf 3 = some 1 ∧ draft.dom.kind? (some 3) = some .element ∧
      ¬ (draft.insertBefore (some 3) (.text "b")).dom.TextsApart ∧
      ¬ (draft.appendBeside (some 3) (some 1) (.text "b")).dom.TextsApart := by
  intro draft
  have hvalid : Dom.empty.ValidRun tableSteps := Dom.validRun_of_check (by decide)
  have hwell : draft.dom.WellFormed := Dom.wellFormed_empty.run hvalid
  exact ⟨hwell, by decide, by decide, by decide, by decide, by decide⟩

/-- Text that is misplaced in a table meets the text before the table. -/
example : ¬ (Markup.construct "a<table>b").draft.dom.TextsApart := by decide +kernel

end Draft

end HtmlTemplate
