import HtmlTemplate.Proofs.Dom.Run
import HtmlTemplate.Proofs.Draft.Call

/-!
# Roots of a draft

A `Call` that is `Careful` puts only nodes that stand nowhere yet, at nodes that exist, and makes no
cycle. It does not keep a document well-formed by itself: a node that is put before a root becomes a
sibling of it without a parent, and the document may be put below one of its fragments. A `Valid`
call does neither. Valid calls keep the document well-formed, and the document itself and the
fragments with contents of elements stay roots (`Draft.Sound.run`).
-/

namespace HtmlTemplate

/-! ## Calls that build trees -/

namespace Draft

/-- The fragments that hold the contents of elements. -/
def fragments (draft : Draft) : List NodeId :=
  draft.contents.map Prod.snd

/-- Content may be put at `target`: text always, and a node when it exists, stands nowhere yet,
holds no contents of an element, and is neither `target` nor an ancestor of it. -/
def Accepts (draft : Draft) (target : NodeId) : Content → Prop
  | .text _ => True
  | .node link =>
      ∃ id, link = some id ∧ id < draft.dom.size ∧ draft.dom.parentOf id = none ∧
        id ∉ draft.fragments ∧ ¬ Within draft.dom.parentOf target id

/-- Content may be put at a link, which names a node that exists. -/
def AcceptsAt (draft : Draft) (link : Link) (content : Content) : Prop :=
  ∃ target, link = some target ∧ target < draft.dom.size ∧ draft.Accepts target content

end Draft

namespace Call

/-- A call puts only nodes that stand nowhere yet, and no fragment with contents of an element, at
nodes that exist, and makes no cycle. -/
def Careful (draft : Draft) : Call → Prop
  | .append parent content => draft.AcceptsAt parent content
  | .insertBefore sibling content => draft.AcceptsAt sibling content
  | .appendBeside beside previous content =>
      if (draft.dom.parent beside).isSome then draft.AcceptsAt beside content
      else draft.AcceptsAt previous content
  | .reparentChildren node parent =>
      ∀ child ∈ draft.dom.children node,
        ∃ above, parent = some above ∧ above < draft.dom.size ∧
          ¬ Within draft.dom.parentOf above child
  | _ => True

/-- What a call puts somewhere. -/
def content? : Call → Option Content
  | .append _ content | .insertBefore _ content | .appendBeside _ _ content => some content
  | _ => none

/-- A call does not put content before a node that stands nowhere. -/
def Anchored (draft : Draft) : Call → Prop
  | .insertBefore sibling _ => draft.dom.parent sibling ≠ none
  | _ => True

/-- A careful call that leaves the document where it is and puts nothing before a root. -/
structure Valid (draft : Draft) (call : Call) : Prop where
  careful : call.Careful draft
  document_stays : call.content? ≠ some (.node (some Dom.document))
  anchored : call.Anchored draft

end Call

namespace Draft

/-- Each call of a list meets a condition in the draft that the calls before it leave. -/
def EachCall (condition : Draft → Call → Prop) (draft : Draft) : List Call → Prop
  | [] => True
  | call :: rest => condition draft call ∧ EachCall condition (call.apply draft) rest

/-- The roots that stay roots: the document and the fragments with contents of elements. -/
def roots (draft : Draft) : List NodeId :=
  Dom.document :: draft.fragments

/-- A draft whose document is well-formed, in which each element has at most one fragment, and the
document and the fragments are different nodes without a parent. -/
structure Sound (draft : Draft) : Prop where
  wellFormed : draft.dom.WellFormed
  root : ∀ id ∈ draft.roots, id < draft.dom.size ∧ draft.dom.parentOf id = none
  nodup_roots : draft.roots.Nodup
  nodup_elements : (draft.contents.map Prod.fst).Nodup

variable {draft : Draft} {calls : List Call} {id : NodeId}

/-- What holds at each call of a run holds at each call of its beginning. -/
theorem EachCall.take {condition : Draft → Call → Prop} (h : draft.EachCall condition calls)
    (count : Nat) : draft.EachCall condition (calls.take count) := by
  induction count generalizing draft calls with
  | zero => exact trivial
  | succ count ih =>
      cases calls with
      | nil => exact trivial
      | cons call rest => exact ⟨h.1, ih h.2⟩

/-- The empty draft is sound. -/
theorem sound_empty : Draft.empty.Sound where
  wellFormed := Dom.wellFormed_empty
  root := by decide
  nodup_roots := by decide
  nodup_elements := by decide

/-! ## Each call keeps a draft sound -/

/-- A call that is a run of valid steps, none of which puts a root somewhere. -/
theorem Sound.steps (h : draft.Sound) (steps : List Step) (hvalid : draft.dom.ValidRun steps)
    (hplaced : ∀ step ∈ steps, ∀ id ∈ draft.roots, step.placed? ≠ some id) :
    Sound { draft with dom := draft.dom.run steps } where
  wellFormed := h.wellFormed.run hvalid
  root id hid :=
    have hroot := h.root id hid
    Dom.parentOf_run hvalid hroot.1 hroot.2 fun step hstep => hplaced step hstep id hid
  nodup_roots := h.nodup_roots
  nodup_elements := h.nodup_elements

/-- A new node keeps a draft sound. -/
theorem Sound.create (h : draft.Sound) (payload : Payload) : (draft.create payload).1.Sound :=
  h.steps [.create payload] ⟨trivial, trivial⟩ (by simp [Step.placed?])

/-- A node that is new is none of the roots. -/
theorem Sound.ne_size (h : draft.Sound) (hid : id ∈ draft.roots) : draft.dom.size ≠ id :=
  (Nat.ne_of_lt (h.root id hid).1).symm

/-- A node is no root if it is neither the document nor a fragment for contents. -/
theorem not_mem_roots (hdocument : Content.node (some id) ≠ .node (some Dom.document))
    (hfragment : id ∉ draft.fragments) : id ∉ draft.roots := by
  rw [roots, List.mem_cons, not_or]
  exact ⟨fun heq => hdocument (congrArg (Content.node ∘ some) heq), hfragment⟩

/-- A node that is none of the roots may be put somewhere. -/
theorem Sound.place (h : draft.Sound) {step : Step} (hvalid : step.Valid draft.dom)
    (hplaced : step.placed? = some id) (hid : id ∉ draft.roots) :
    Sound { draft with dom := draft.dom.run [step] } := by
  refine h.steps [step] ⟨hvalid, trivial⟩ ?_
  simp only [List.mem_singleton, forall_eq]
  exact fun root hroot heq => hid (Option.some.inj (hplaced.symm.trans heq) ▸ hroot)

/-- So may a node that is made for it. -/
theorem Sound.place_new (h : draft.Sound) (payload : Payload) {step : Step}
    (hvalid : step.Valid (draft.dom.create payload).1)
    (hplaced : step.placed? = some draft.dom.size) :
    Sound { draft with dom := draft.dom.run [.create payload, step] } := by
  refine h.steps _ ⟨trivial, hvalid, trivial⟩ ?_
  simp only [List.mem_cons, List.not_mem_nil, or_false, forall_eq_or_imp, forall_eq]
  refine ⟨fun _ _ => nofun, fun root hroot heq => h.ne_size hroot ?_⟩
  exact Option.some.inj (hplaced.symm.trans heq)

/-- Appending accepted content other than the document keeps a draft sound. -/
theorem Sound.append (h : draft.Sound) {parent : Link} {content : Content}
    (haccepts : draft.AcceptsAt parent content)
    (hdocument : content ≠ .node (some Dom.document)) : (draft.append parent content).Sound := by
  obtain ⟨above, rfl, habove, haccepts⟩ := haccepts
  cases content with
  | text text =>
      exact h.steps [.appendText above text] ⟨habove, trivial⟩ (by simp [Step.placed?])
  | node link =>
      obtain ⟨id, rfl, hid, hroot, hfragment, houtside⟩ := haccepts
      have hvalid : (Step.append above id).Valid draft.dom := ⟨habove, hid, hroot, houtside⟩
      exact h.place hvalid rfl (not_mem_roots hdocument hfragment)

/-- Inserting accepted content other than the document before a sibling with a parent keeps a draft
sound. -/
theorem Sound.insertBefore (h : draft.Sound) {sibling : Link} {content : Content}
    (haccepts : draft.AcceptsAt sibling content)
    (hdocument : content ≠ .node (some Dom.document))
    (hanchored : draft.dom.parent sibling ≠ none) : (draft.insertBefore sibling content).Sound := by
  obtain ⟨beside, rfl, hbeside, haccepts⟩ := haccepts
  cases content with
  | text text =>
      have hvalid := h.wellFormed.valid_insertBefore_new hanchored (.text text)
      exact h.place_new (.text text) hvalid rfl
  | node link =>
      obtain ⟨id, rfl, hid, hroot, hfragment, houtside⟩ := haccepts
      have hvalid : (Step.insertBefore beside id).Valid draft.dom :=
        ⟨hbeside, hid, hanchored, hroot, fun hbelow => houtside hbelow.to_reflTransGen⟩
      exact h.place hvalid rfl (not_mem_roots hdocument hfragment)

/-- A doctype keeps a draft sound. -/
theorem Sound.appendDoctype (h : draft.Sound) (name publicId systemId : String) :
    (draft.appendDoctype name publicId systemId).Sound := by
  have hdocument := (h.root Dom.document List.mem_cons_self).1
  have hvalid :=
    h.wellFormed.valid_append_new hdocument (.doctype name publicId systemId)
  exact h.place_new (.doctype name publicId systemId) hvalid rfl

/-- An element that has contents keeps them. -/
theorem templateContents_of_asked {element : Link}
    (h : draft.contents.lookup element = some id) :
    draft.templateContents element = (draft, id) := by
  simp only [templateContents, h]

/-- The first time an element is asked for its contents, they are a new fragment. -/
theorem templateContents_of_new {element : Link} (h : draft.contents.lookup element = none) :
    draft.templateContents element =
      ({ draft with
          dom := (draft.dom.create .fragment).1
          contents := draft.contents ++ [(element, draft.dom.size)] }, draft.dom.size) := by
  simp only [templateContents, h]
  rfl

/-- The fragment made for an element is a new root. -/
theorem Sound.templateContents (h : draft.Sound) (element : Link) :
    (draft.templateContents element).1.Sound := by
  cases hlookup : draft.contents.lookup element with
  | some fragment =>
      rw [templateContents_of_asked hlookup]
      exact h
  | none =>
      rw [templateContents_of_new hlookup]
      have hgrown := h.create .fragment
      have hroots : ∀ contents, contents = draft.contents ++ [(element, draft.dom.size)] →
          Dom.document :: contents.map Prod.snd = draft.roots.concat draft.dom.size := by
        rintro _ rfl
        simp [roots, fragments]
      refine ⟨hgrown.wellFormed, fun id hid => ?_, ?_, ?_⟩
      · rw [roots, fragments, hroots _ rfl, List.concat_eq_append, List.mem_append,
          List.mem_singleton] at hid
        rcases hid with hid | rfl
        · exact hgrown.root id hid
        · exact ⟨(Dom.size_create draft.dom .fragment).symm ▸ Nat.lt_succ_self _,
            Dom.parentOf_size_create draft.dom .fragment⟩
      · rw [roots, fragments, hroots _ rfl]
        exact h.nodup_roots.concat fun hmem => h.ne_size hmem rfl
      · rw [List.map_append, List.map_singleton, ← List.concat_eq_append]
        refine h.nodup_elements.concat fun hmem => ?_
        obtain ⟨entry, hentry, rfl⟩ := List.mem_map.mp hmem
        simpa using List.lookup_eq_none_iff.mp hlookup entry hentry

/-- Attributes keep a draft sound. -/
theorem Sound.addMissingAttributes (h : draft.Sound) (element : Link)
    (attributes : List Attribute) : (draft.addMissingAttributes element attributes).Sound where
  wellFormed := by
    rw [dom_addMissingAttributes]
    exact h.wellFormed.changePayload element _
  root id hid := by
    have hparent : (draft.addMissingAttributes element attributes).dom.parentOf =
        draft.dom.parentOf := by
      rw [dom_addMissingAttributes]
      exact Dom.parentOf_update fun _ => rfl
    rw [hparent, dom_addMissingAttributes, Dom.size_update]
    exact h.root id hid
  nodup_roots := h.nodup_roots
  nodup_elements := h.nodup_elements

/-- Moving children with care keeps a draft sound. -/
theorem Sound.reparentChildren (h : draft.Sound) {node parent : Link}
    (hcareful : (Call.reparentChildren node parent).Careful draft) :
    (draft.reparentChildren node parent).Sound := by
  -- What is moved stands somewhere, so it is none of the roots.
  have hunder : ∀ child ∈ draft.dom.children node, draft.dom.parentOf child ≠ none := by
    intro child hchild
    cases node with
    | none => cases hchild
    | some id => exact ne_of_eq_of_ne (h.wellFormed.mem_children.mp hchild) nofun
  rw [Draft.reparentChildren]
  cases hchildren : draft.dom.children node with
  | nil => exact h
  | cons first rest =>
      rw [Call.Careful, hchildren] at hcareful
      rw [hchildren] at hunder
      obtain ⟨above, rfl, habove, -⟩ := hcareful first List.mem_cons_self
      rw [← Dom.run_moveSteps]
      refine h.steps _ (Dom.validRun_moveSteps habove fun child hchild => ?_) ?_
      · obtain ⟨target, htarget⟩ := Option.ne_none_iff_exists'.mp (hunder child hchild)
        obtain ⟨_, heq, -, houtside⟩ := hcareful child hchild
        cases heq
        exact ⟨Dom.lt_of_under htarget, houtside⟩
      · exact fun step hstep id hid hplaced =>
          hunder id (Dom.placed_of_mem_moveSteps hstep hplaced) (h.root id hid).2

/-- A valid call keeps a draft sound. -/
theorem Sound.call (h : draft.Sound) {call : Call} (hvalid : call.Valid draft) :
    (call.apply draft).Sound := by
  obtain ⟨hcareful, hdocument, hanchored⟩ := hvalid
  cases call with
  | element | comment | instruction => exact h.create _
  | append parent content =>
      exact h.append hcareful fun heq => hdocument (congrArg some heq)
  | insertBefore sibling content =>
      exact h.insertBefore hcareful (fun heq => hdocument (congrArg some heq)) hanchored
  | appendBeside element previous content =>
      have hdocument : content ≠ .node (some Dom.document) :=
        fun heq => hdocument (congrArg some heq)
      rw [Call.Careful] at hcareful
      rw [Call.apply, Draft.appendBeside]
      split
      · next hparent =>
          rw [if_pos hparent] at hcareful
          exact h.insertBefore hcareful hdocument (Option.isSome_iff_ne_none.mp hparent)
      · next hparent =>
          rw [if_neg hparent] at hcareful
          exact h.append hcareful hdocument
  | appendDoctype name publicId systemId => exact h.appendDoctype name publicId systemId
  | templateContents element => exact h.templateContents element
  | addMissingAttributes element attributes => exact h.addMissingAttributes element attributes
  | detach link =>
      exact h.steps [.detach link] ⟨trivial, trivial⟩ (by simp [Step.placed?])
  | reparentChildren node parent => exact h.reparentChildren hcareful
  | setMode | fault => exact ⟨h.wellFormed, h.root, h.nodup_roots, h.nodup_elements⟩

/-- So do valid calls in turn. -/
theorem Sound.run (h : draft.Sound)
    (hvalid : draft.EachCall (fun draft call => call.Valid draft) calls) :
    (draft.run calls).Sound := by
  induction calls generalizing draft with
  | nil => exact h
  | cons call rest ih => exact ih (h.call hvalid.1) hvalid.2

end Draft

end HtmlTemplate
