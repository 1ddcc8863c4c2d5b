import HtmlTemplate.Proofs.Draft.Roots
import HtmlTemplate.Proofs.Rendering.Locality

/-!
# Contents of elements that stand apart

`Draft.templateContents` gives each element that asks for it a fragment of its own. In a run of
valid calls these fragments stay roots, beside the document. A node has one root, so what is below a
fragment is not in the document: no search of the document finds it, and no rendering of the
document depends on it (`Draft.contents_isolated`). Calls that are careful and no more can bring it
into the document (`Draft.contents_leak`).
-/

namespace HtmlTemplate.Draft

variable {draft : Draft} {calls : List Call} {id : NodeId}

/-! ## The fragments that calls give back -/

/-- The element that a call of a run asks about, and the fragment that it is given. -/
def asked? (draft : Draft) (calls : List Call) (index : Nat) : Option (Link × NodeId) :=
  match calls[index]? with
  | some (.templateContents element) =>
      some (element, ((draft.run (calls.take index)).templateContents element).2)
  | _ => none

/-- After the first `count` calls of a run, a node is within a fragment that one of them gave
back. -/
def Hidden (draft : Draft) (calls : List Call) (count : Nat) (id : NodeId) : Prop :=
  ∃ index < count, ∃ element fragment, draft.asked? calls index = some (element, fragment) ∧
    Within (draft.run (calls.take count)).dom.parentOf id fragment

/-- No call forgets the fragment of an element. -/
theorem contents_subset_call (draft : Draft) (call : Call) :
    draft.contents ⊆ (call.apply draft).contents := by
  have happend : ∀ parent content, (draft.append parent content).contents = draft.contents :=
    fun _ content => by cases content <;> rfl
  have hinsert : ∀ sibling content,
      (draft.insertBefore sibling content).contents = draft.contents :=
    fun _ content => by cases content <;> rfl
  cases call with
  | append parent content => exact (happend parent content).symm ▸ List.Subset.refl _
  | insertBefore sibling content => exact (hinsert sibling content).symm ▸ List.Subset.refl _
  | appendBeside element previous content =>
      rw [Call.apply, appendBeside]
      split
      · rw [hinsert]
        exact List.Subset.refl _
      · rw [happend]
        exact List.Subset.refl _
  | templateContents element =>
      rw [Call.apply]
      cases hlookup : draft.contents.lookup element with
      | some fragment =>
          rw [templateContents_of_asked hlookup]
          exact List.Subset.refl _
      | none =>
          rw [templateContents_of_new hlookup]
          exact List.subset_append_left _ _
  | _ => exact List.Subset.refl _

/-- An element keeps the contents that it has. -/
theorem contents_subset_run (draft : Draft) (calls : List Call) :
    draft.contents ⊆ (draft.run calls).contents := by
  induction calls generalizing draft with
  | nil => exact List.Subset.refl _
  | cons call rest ih =>
      exact List.Subset.trans (draft.contents_subset_call call) (ih (call.apply draft))

/-- An element has contents once it was asked for them. -/
theorem mem_contents_templateContents (draft : Draft) (element : Link) :
    (element, (draft.templateContents element).2) ∈
      (draft.templateContents element).1.contents := by
  cases hlookup : draft.contents.lookup element with
  | some fragment =>
      rw [templateContents_of_asked hlookup]
      obtain ⟨front, back, hsplit, -⟩ := List.lookup_eq_some_iff.mp hlookup
      exact hsplit.symm ▸ List.mem_append_right _ List.mem_cons_self
  | none =>
      rw [templateContents_of_new hlookup]
      exact List.mem_append_right _ List.mem_cons_self

/-- A fragment that a call gives back is on record from then on. -/
theorem mem_contents_of_asked {index count : Nat} {entry : Link × NodeId}
    (h : draft.asked? calls index = some entry) (hlt : index < count) :
    entry ∈ (draft.run (calls.take count)).contents := by
  rw [asked?] at h
  split at h
  · next element hcall =>
      cases h
      obtain ⟨more, hmore⟩ := draft.run_take_of_le calls (Nat.succ_le_of_lt hlt)
      rw [hmore, run_take_succ hcall]
      exact contents_subset_run _ _ (mem_contents_templateContents _ _)
  · cases h

/-- Entries on record are of the same element exactly if they have the same fragment. -/
theorem Sound.snd_eq_iff (h : draft.Sound) {entry other : Link × NodeId}
    (hentry : entry ∈ draft.contents) (hother : other ∈ draft.contents) :
    entry.2 = other.2 ↔ entry.1 = other.1 := by
  constructor
  · intro heq
    exact congrArg Prod.fst
      (List.inj_on_of_nodup_map (List.nodup_cons.mp h.nodup_roots).2 hentry hother heq)
  · intro heq
    exact congrArg Prod.snd (List.inj_on_of_nodup_map h.nodup_elements hentry hother heq)

/-! ## What is below a fragment is not in the document -/

/-- A node within a fragment is not within the document, since it has one root only. -/
theorem Sound.not_within_document (h : draft.Sound) {fragment : NodeId}
    (hfragment : fragment ∈ draft.fragments) (hid : Within draft.dom.parentOf id fragment) :
    ¬ Within draft.dom.parentOf id Dom.document := by
  intro hdocument
  have hne : fragment ≠ Dom.document := fun heq =>
    (List.nodup_cons.mp h.nodup_roots).1 (heq ▸ hfragment)
  have hroot := (h.root fragment (List.mem_cons_of_mem _ hfragment)).2
  have hdocumentRoot := (h.root Dom.document List.mem_cons_self).2
  rcases within_total hid hdocument with hwithin | hwithin
  · exact hne ((within_iff_of_root hroot).mp hwithin).symm
  · exact hne ((within_iff_of_root hdocumentRoot).mp hwithin)

/-- Whatever stands outside the document may be changed in any way: the text and the rendering of a
node of the document stay as they are. -/
theorem Sound.readings_eq (h : draft.Sound) {root : NodeId}
    (hroot : Within draft.dom.parentOf root Dom.document) {other : Dom}
    (hsize : other.size = draft.dom.size)
    (hsame : ∀ id, Within draft.dom.parentOf id Dom.document →
      other.get? (some id) = draft.dom.get? (some id)) :
    other.textContent (some root) = draft.dom.textContent (some root) ∧
      ∀ catalog, other.render catalog (some root) = draft.dom.render catalog (some root) := by
  have hexists := Dom.lt_of_within (h.root Dom.document List.mem_cons_self).1 hroot
  have hbelow := Dom.SameBelow.of_get? hsize fun id hid => hsame id (hid.trans hroot)
  exact ⟨hbelow.textContent_eq h.wellFormed hexists, hbelow.render_eq h.wellFormed hexists⟩

/-- A fragment that a call gave back holds the contents of an element from then on. -/
theorem mem_fragments_of_asked {index count : Nat} {element : Link} {fragment : NodeId}
    (h : draft.asked? calls index = some (element, fragment)) (hlt : index < count) :
    fragment ∈ (draft.run (calls.take count)).fragments :=
  List.mem_map.mpr ⟨_, mem_contents_of_asked h hlt, rfl⟩

/-- Nothing hidden is in the document. -/
theorem Hidden.not_within_document {count : Nat} (h : draft.Hidden calls count id)
    (hsound : (draft.run (calls.take count)).Sound) :
    ¬ Within (draft.run (calls.take count)).dom.parentOf id Dom.document := by
  obtain ⟨index, hlt, element, fragment, hasked, hwithin⟩ := h
  exact hsound.not_within_document (mem_fragments_of_asked hasked hlt) hwithin

/-- In a run of valid calls, an element is given the same fragment each time and different elements
different fragments. At every point each of these fragments is a root. No node within one of them is
met from the document or found in it, and for a node of the document neither its text nor its
rendering would change if these nodes were any others. -/
theorem contents_isolated
    (hvalid : Draft.empty.EachCall (fun draft call => call.Valid draft) calls) :
    (∀ index later element other fragment another,
      Draft.empty.asked? calls index = some (element, fragment) →
      Draft.empty.asked? calls later = some (other, another) →
      (fragment = another ↔ element = other)) ∧
    ∀ count,
      let dom := (Draft.empty.run (calls.take count)).dom
      (∀ index < count, ∀ element fragment,
        Draft.empty.asked? calls index = some (element, fragment) → dom.parentOf fragment = none) ∧
      (∀ id, Draft.empty.Hidden calls count id →
        id ∉ dom.descendants (some Dom.document) ∧
          (∀ condition, dom.find? condition ≠ some id) ∧ ∀ tag, dom.findTag? tag ≠ some id) ∧
      ∀ root, Within dom.parentOf root Dom.document →
        (∀ id, Draft.empty.Hidden calls count id → id ∉ dom.descendants (some root)) ∧
        ∀ other : Dom, other.size = dom.size →
          (∀ id, ¬ Draft.empty.Hidden calls count id →
            other.get? (some id) = dom.get? (some id)) →
          other.textContent (some root) = dom.textContent (some root) ∧
            ∀ catalog, other.render catalog (some root) = dom.render catalog (some root) := by
  have hsound : ∀ count, (Draft.empty.run (calls.take count)).Sound :=
    fun count => sound_empty.run (hvalid.take count)
  refine ⟨?_, fun count => ?_⟩
  · intro index later element other fragment another hasked hlater
    -- Both entries are on record once the later of the two calls is made.
    have hentry := mem_contents_of_asked hasked
      (Nat.lt_succ_of_le (Nat.le_max_left index later))
    have hother := mem_contents_of_asked hlater
      (Nat.lt_succ_of_le (Nat.le_max_right index later))
    exact (hsound _).snd_eq_iff hentry hother
  · intro dom
    have h := hsound count
    have hexists : Dom.document < dom.size := (h.root _ List.mem_cons_self).1
    have hhidden : ∀ id, Draft.empty.Hidden calls count id →
        ∀ root, Within dom.parentOf root Dom.document → id ∉ dom.descendants (some root) := by
      intro id hid root hroot hmem
      rw [h.wellFormed.mem_descendants (Dom.lt_of_within hexists hroot)] at hmem
      exact hid.not_within_document h (hmem.trans hroot)
    have hfind : ∀ id, Draft.empty.Hidden calls count id →
        ∀ condition, dom.find? condition ≠ some id := fun id hid condition heq =>
      hhidden id hid Dom.document .refl (List.mem_of_find?_eq_some heq)
    refine ⟨?_, ?_, ?_⟩
    · intro index hlt element fragment hasked
      exact (h.root fragment (List.mem_cons_of_mem _ (mem_fragments_of_asked hasked hlt))).2
    · exact fun id hid => ⟨hhidden id hid _ .refl, hfind id hid, fun tag => hfind id hid _⟩
    · intro root hroot
      refine ⟨fun id hid => hhidden id hid root hroot, fun other hsize hsame => ?_⟩
      exact h.readings_eq hroot hsize fun id hid =>
        hsame id fun hhidden => hhidden.not_within_document h hid

/-- Calls that put text into the contents of one element, ask for those of another, and come back to
the first. -/
def hiddenTextCalls : List Call :=
  [.element (.html "template") [], .append (some 0) (.node (some 1)), .templateContents (some 1),
    .append (some 2) (.text "hidden"), .templateContents (some 0), .append (some 0) (.text "shown"),
    .templateContents (some 1)]

/-- The calls are valid. -/
theorem valid_hiddenTextCalls :
    Draft.empty.EachCall (fun draft call => call.Valid draft) hiddenTextCalls := by
  refine ⟨⟨trivial, nofun, trivial⟩, ⟨?_, by decide, trivial⟩, ⟨trivial, nofun, trivial⟩,
    ⟨?_, by decide, trivial⟩, ⟨trivial, nofun, trivial⟩, ⟨?_, by decide, trivial⟩,
    ⟨trivial, nofun, trivial⟩, trivial⟩
  · refine ⟨0, rfl, by decide, 1, rfl, by decide, by decide, by decide, ?_⟩
    rw [within_iff_of_root (by decide)]
    decide
  · exact ⟨2, rfl, by decide, trivial⟩
  · exact ⟨0, rfl, by decide, trivial⟩

/-- The text in the fragment is hidden, and the document has the other text only. -/
theorem contents_isolated_text :
    Draft.empty.EachCall (fun draft call => call.Valid draft) hiddenTextCalls ∧
      Draft.empty.asked? hiddenTextCalls 2 = some (some 1, 2) ∧
      Draft.empty.asked? hiddenTextCalls 4 = some (some 0, 4) ∧
      Draft.empty.asked? hiddenTextCalls 6 = some (some 1, 2) ∧
      Draft.empty.Hidden hiddenTextCalls 7 3 ∧
      3 ∉ (Draft.empty.run (hiddenTextCalls.take 7)).dom.descendants (some Dom.document) := by
  have hasked : Draft.empty.asked? hiddenTextCalls 2 = some (some 1, 2) := by decide
  have hhidden : Draft.empty.Hidden hiddenTextCalls 7 3 :=
    ⟨2, by decide, some 1, 2, hasked, .single (show _ = some 2 by decide)⟩
  obtain ⟨-, hstates⟩ := contents_isolated valid_hiddenTextCalls
  obtain ⟨-, hfound, -⟩ := hstates 7
  exact ⟨valid_hiddenTextCalls, hasked, by decide, by decide, hhidden, (hfound 3 hhidden).1⟩

/-- Calls that put the document under the fragment of an element. -/
def documentMovedCalls : List Call :=
  [.element (.html "template") [], .templateContents (some 1), .append (some 2) (.node (some 0))]

/-- The calls are careful, though they move the document. -/
theorem careful_documentMovedCalls :
    Draft.empty.EachCall (fun draft call => call.Careful draft) documentMovedCalls := by
  refine ⟨trivial, trivial, ?_, trivial⟩
  refine ⟨2, rfl, by decide, 0, rfl, by decide, by decide, by decide, ?_⟩
  rw [within_iff_of_root (by decide)]
  decide

/-- Calls that put two elements before the fragment of an element. They become its siblings without
a parent, and when the first is put under the document, the fragment follows it there. -/
def followedCalls : List Call :=
  [.element (.html "template") [], .templateContents (some 1), .append (some 2) (.text "hidden"),
    .element (.html "p") [], .insertBefore (some 2) (.node (some 4)), .element (.html "b") [],
    .insertBefore (some 2) (.node (some 5)), .append (some 0) (.node (some 4)),
    .detach (some 5)]

/-- The calls are careful, though they put elements before a fragment. -/
theorem careful_followedCalls :
    Draft.empty.EachCall (fun draft call => call.Careful draft) followedCalls := by
  refine ⟨trivial, trivial, ⟨2, rfl, by decide, trivial⟩, trivial, ?_, trivial, ?_, ?_, trivial,
    trivial⟩
  · refine ⟨2, rfl, by decide, 4, rfl, by decide, by decide, by decide, ?_⟩
    rw [within_iff_of_root (by decide)]
    decide
  · refine ⟨2, rfl, by decide, 5, rfl, by decide, by decide, by decide, ?_⟩
    rw [within_iff_of_root (by decide)]
    decide
  · refine ⟨0, rfl, by decide, 4, rfl, by decide, by decide, by decide, ?_⟩
    rw [within_iff_of_root (by decide)]
    decide

/-- Careful calls alone do not keep contents apart: the document may be put under a fragment, and a
fragment that something was put before may come to follow a node of the document. -/
theorem contents_leak :
    (Draft.empty.EachCall (fun draft call => call.Careful draft) documentMovedCalls ∧
      Draft.empty.Hidden documentMovedCalls 3 Dom.document ∧
      Dom.document ∈
        (Draft.empty.run (documentMovedCalls.take 3)).dom.descendants (some Dom.document)) ∧
    Draft.empty.EachCall (fun draft call => call.Careful draft) followedCalls ∧
      Draft.empty.Hidden followedCalls 9 3 ∧
      3 ∈ (Draft.empty.run (followedCalls.take 9)).dom.descendants (some Dom.document) ∧
      (Draft.empty.run (followedCalls.take 9)).dom.textContent (some Dom.document) = "hidden" := by
  refine ⟨⟨careful_documentMovedCalls, ?_, ?_⟩, careful_followedCalls, ?_, ?_, ?_⟩
  · exact ⟨1, by decide, some 1, 2, by decide, .single (show _ = some 2 by decide)⟩
  · rw [Dom.descendants_eq_preorder (by decide)]
    decide
  · exact ⟨1, by decide, some 1, 2, by decide, .single (show _ = some 2 by decide)⟩
  · rw [Dom.descendants_eq_preorder (by decide)]
    decide
  · rw [Dom.textContent, Dom.descendants_eq_preorder (by decide)]
    decide

end HtmlTemplate.Draft
