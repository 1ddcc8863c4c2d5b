import HtmlTemplate.Proofs.Dom.Moves
import HtmlTemplate.Proofs.Draft.Call

/-!
# Misplaced content

Content that is misplaced inside an element is put beside it, piece after piece
(`Draft.appendBeside`). As long as the element stands somewhere, each piece goes right before it, so
that the pieces stand in their order between what preceded the element and the element. Where the
element stands nowhere, each piece goes to the end of another node, and a text joins a text that is
last there. `appendBeside_in_order` says what a list of pieces comes to in either case, by induction
on the list: what one piece leaves (`putBefore_one`, `putBehind_one`) accepts the rest of them
(`Offers.rest`).
-/

namespace HtmlTemplate

/-- The node that content is, if it is one. -/
def Content.node? : Content → Option NodeId
  | .node link => link
  | .text _ => none

namespace Dom

/-- The nodes among the contents are different, stand nowhere yet, and are neither of two places nor
an ancestor of one. -/
structure Offers (dom : Dom) (element previous : NodeId) (contents : List Content) : Prop where
  nodup : (contents.filterMap Content.node?).Nodup
  fits : ∀ link, .node link ∈ contents → ∃ id, link = some id ∧ id < dom.size ∧
    dom.parentOf id = none ∧ ¬ Within dom.parentOf element id ∧ ¬ Within dom.parentOf previous id

/-- A document is another one with contents put somewhere below `target`. -/
structure Received (dom after : Dom) (target : NodeId) (contents : List Content) : Prop where
  wellFormed : after.WellFormed
  size_le : dom.size ≤ after.size
  /-- Only the nodes among the contents get another parent. -/
  parents : ∀ id < dom.size, .node (some id) ∉ contents → after.parentOf id = dom.parentOf id
  /-- Only `target` gets other children. -/
  others : ∀ other < dom.size, other ≠ target →
    after.children (some other) = dom.children (some other)

/-- A node stands for content: it is the node that was put, or a new text that says what was put. -/
def StandsFor (dom after : Dom) : Content → NodeId → Prop
  | .node link, id => link = some id
  | .text text, id => dom.size ≤ id ∧ after.payload? (some id) = some (.text text)

/-- A document is another one with contents put right before `element`, a child of `above`. -/
structure PutBefore (dom after : Dom) (element above : NodeId) (contents : List Content) : Prop
    extends Received dom after above contents where
  /-- The contents stand in their order between what precedes the element and the element. -/
  target : ∀ front back, dom.children (some above) = front ++ element :: back →
    ∃ ids, List.Forall₂ (dom.StandsFor after) contents ids ∧
      after.children (some above) = front ++ ids ++ element :: back
  payloads : ∀ id < dom.size, after.payload? (some id) = dom.payload? (some id)

/-- The children of a node with what they say. -/
def row (dom : Dom) (above : NodeId) : List (NodeId × Option Payload) :=
  (dom.children (some above)).map fun id => (id, dom.payload? (some id))

/-- What becomes of a row of nodes when contents are put at its end one after the other: a node is
put behind the last one, and so is a new text, unless the last one is a text that the new text can
join. -/
inductive Extends (dom : Dom) :
    List (NodeId × Option Payload) → List Content → List (NodeId × Option Payload) → Prop where
  | done (row) : Extends dom row [] row
  | node (row id contents result) :
      Extends dom (row ++ [(id, dom.payload? (some id))]) contents result →
      Extends dom row (.node (some id) :: contents) result
  | join (row id old text contents result) :
      Extends dom (row ++ [(id, some (.text (old ++ text)))]) contents result →
      Extends dom (row ++ [(id, some (.text old))]) (.text text :: contents) result
  | text (row id text contents result) :
      (∀ last old, row.getLast? ≠ some (last, some (.text old))) → dom.size ≤ id →
      Extends dom (row ++ [(id, some (.text text))]) contents result →
      Extends dom row (.text text :: contents) result

/-- A document is another one with contents put at the end of `previous`. -/
structure PutBehind (dom after : Dom) (previous : NodeId) (contents : List Content) : Prop
    extends Received dom after previous contents where
  /-- The children that were there come first. -/
  front : dom.children (some previous) <+: after.children (some previous)
  /-- The contents stand behind them in their order, with texts joined. -/
  target : dom.Extends (dom.row previous) contents (after.row previous)
  payloads : ∀ id < dom.size, id ∉ after.children (some previous) →
    after.payload? (some id) = dom.payload? (some id)

variable {dom middle after : Dom} {element previous above target id : NodeId} {content : Content}
  {contents : List Content}

/-! ## Piece by piece -/

/-- A document has received nothing from itself. -/
theorem WellFormed.received_nothing (h : dom.WellFormed) (target : NodeId) :
    dom.Received dom target [] :=
  ⟨h, Nat.le_refl _, fun _ _ _ => rfl, fun _ _ _ => rfl⟩

/-- What is received first comes before the rest. -/
theorem Received.cons (hfirst : dom.Received middle target [content])
    (hrest : middle.Received after target contents) :
    dom.Received after target (content :: contents) where
  wellFormed := hrest.wellFormed
  size_le := Nat.le_trans hfirst.size_le hrest.size_le
  parents id hid hmem := by
    obtain ⟨hhead, htail⟩ := not_or.mp (List.mem_cons.not.mp hmem)
    rw [hrest.parents id (Nat.lt_of_lt_of_le hid hfirst.size_le) htail]
    exact hfirst.parents id hid (List.mem_singleton.not.mpr hhead)
  others other hother hne := by
    rw [hrest.others other (Nat.lt_of_lt_of_le hother hfirst.size_le) hne]
    exact hfirst.others other hother hne

/-- A place that is not within the piece that was put stands within the same nodes. -/
theorem Received.not_within (hfirst : dom.Received middle target [content]) (h : dom.WellFormed)
    {place : NodeId} (hplace : place < dom.size)
    (hput : ∀ node, content = .node (some node) → ¬ Within dom.parentOf place node)
    (houtside : ¬ Within dom.parentOf place id) : ¬ Within middle.parentOf place id := by
  intro hwithin
  refine houtside (hwithin.of_same_parents fun above habove => ?_)
  have hlt : above < dom.size := by
    have hsize := h.proper.within_lt ((size_forest dom).symm ▸ hplace) habove
    rwa [size_forest] at hsize
  refine hfirst.parents above hlt fun hmem => hput above ?_ habove
  exact (List.mem_singleton.mp hmem).symm

/-- The piece that comes first is neither of the two places nor an ancestor of one. -/
theorem Offers.head_outside (hoffers : dom.Offers element previous (content :: contents))
    {node : NodeId} (hnode : content = .node (some node)) :
    ¬ Within dom.parentOf element node ∧ ¬ Within dom.parentOf previous node := by
  subst hnode
  obtain ⟨id, heq, -, -, houtside⟩ := hoffers.fits _ List.mem_cons_self
  cases heq
  exact houtside

/-- It is none of those behind it. -/
theorem Offers.head_ne (hoffers : dom.Offers element previous (content :: contents))
    (hmem : .node (some id) ∈ contents) : .node (some id) ≠ content := by
  rintro rfl
  have hnodup : (id :: contents.filterMap Content.node?).Nodup := hoffers.nodup
  exact (List.nodup_cons.mp hnodup).1 (List.mem_filterMap.mpr ⟨_, hmem, rfl⟩)

/-- What one piece leaves accepts the rest. -/
theorem Offers.rest (hoffers : dom.Offers element previous (content :: contents))
    (h : dom.WellFormed) (helement : element < dom.size) (hprevious : previous < dom.size)
    (hfirst : dom.Received middle target [content]) :
    middle.Offers element previous contents where
  nodup := by
    have hnodup := hoffers.nodup
    rw [List.filterMap_cons] at hnodup
    split at hnodup
    · exact hnodup
    · exact hnodup.of_cons
  fits link hlink := by
    obtain ⟨id, rfl, hid, hroot, helementOut, hpreviousOut⟩ :=
      hoffers.fits link (List.mem_cons_of_mem content hlink)
    have hother : .node (some id) ∉ [content] := List.mem_singleton.not.mpr (hoffers.head_ne hlink)
    exact ⟨id, rfl, Nat.lt_of_lt_of_le hid hfirst.size_le,
      (hfirst.parents id hid hother).trans hroot,
      hfirst.not_within h helement (fun _ hnode => (hoffers.head_outside hnode).1) helementOut,
      hfirst.not_within h hprevious (fun _ hnode => (hoffers.head_outside hnode).2) hpreviousOut⟩

/-- The element is none of the pieces, so it stays where it is. -/
theorem Offers.element_stays (hoffers : dom.Offers element previous (content :: contents))
    (helement : element < dom.size) (hfirst : dom.Received middle target [content]) :
    middle.parentOf element = dom.parentOf element := by
  refine hfirst.parents element helement fun hmem => ?_
  exact (hoffers.head_outside (List.mem_singleton.mp hmem).symm).1 .refl

/-- A document receives a text when the new node that says it is put there. -/
theorem Received.of_create {text : String} (h : dom.WellFormed)
    (hreceived : (dom.create (.text text)).1.Received after target [.node (some dom.size)]) :
    dom.Received after target [.text text] := by
  have hsize : dom.size ≤ (dom.create (.text text)).1.size := size_create dom _ ▸ Nat.le_succ _
  refine ⟨hreceived.wellFormed, Nat.le_trans hsize hreceived.size_le, fun id hid _ => ?_,
    fun other hother hne => ?_⟩
  · have hold : .node (some id) ∉ [Content.node (some dom.size)] := by
      simpa using Nat.ne_of_lt hid
    rw [hreceived.parents id (Nat.lt_of_lt_of_le hid hsize) hold, parentOf_create]
  · rw [hreceived.others other (Nat.lt_of_lt_of_le hother hsize) hne, h.children_create]

/-! ## Pieces before the element -/

/-- A node that is put right before the element. -/
theorem WellFormed.putBefore_node (h : dom.WellFormed)
    (hvalid : (Step.insertBefore element id).Valid dom)
    (habove : dom.parentOf element = some above) :
    dom.PutBefore (dom.insertBefore (some element) (some id)) element above
      [.node (some id)] where
  wellFormed := (h.stores.step hvalid).wellFormed
  size_le := Nat.le_of_eq (size_insertBefore ..).symm
  parents other _ hother := by
    have hne : other ≠ id := by
      rintro rfl
      exact hother List.mem_cons_self
    rw [parentOf_insertBefore habove hvalid.2.1, Function.update_of_ne hne]
  others other _ hne := by
    rw [h.children_insertBefore hvalid habove, if_neg hne]
  target front back hsplit := by
    refine ⟨[id], .cons rfl .nil, ?_⟩
    rw [h.children_insertBefore_middle hvalid habove hsplit, List.append_assoc,
      List.singleton_append]
  payloads _ _ := payload?_insertBefore ..

/-- A text that is put right before the element. -/
theorem WellFormed.putBefore_text (h : dom.WellFormed)
    (habove : dom.parentOf element = some above) (text : String) :
    dom.PutBefore ((dom.create (.text text)).1.insertBefore (some element) (some dom.size)) element
      above [.text text] := by
  have hcreated : (dom.create (.text text)).1.WellFormed := (h.stores.create _).wellFormed
  have hvalid := h.valid_insertBefore_new (habove ▸ Option.some_ne_none above) (.text text)
  have hthere := (congrFun (parentOf_create dom (.text text)) element).trans habove
  refine ⟨(hcreated.putBefore_node hvalid hthere).toReceived.of_create h,
    fun front back hsplit => ⟨[dom.size], .cons ⟨Nat.le_refl _, ?_⟩ .nil, ?_⟩, fun id hid => ?_⟩
  · rw [payload?_insertBefore, payload?_size_create]
  · rw [← h.children_create (.text text)] at hsplit
    rw [hcreated.children_insertBefore_middle hvalid hthere hsplit, List.append_assoc,
      List.singleton_append]
  · rw [payload?_insertBefore, payload?_create _ _ hid]

/-- A document has nothing new before an element. -/
theorem WellFormed.putBefore_nothing (h : dom.WellFormed) (element above : NodeId) :
    dom.PutBefore dom element above [] where
  toReceived := h.received_nothing above
  target front back hsplit := ⟨[], .nil, by rw [List.append_nil, hsplit]⟩
  payloads _ _ := rfl

/-- What is put before an element first stays in front of the rest. -/
theorem PutBefore.cons (hfirst : dom.PutBefore middle element above [content])
    (hrest : middle.PutBefore after element above contents) :
    dom.PutBefore after element above (content :: contents) where
  toReceived := hfirst.toReceived.cons hrest.toReceived
  target front back hsplit := by
    obtain ⟨ids, hids, hmiddle⟩ := hfirst.target front back hsplit
    obtain ⟨id, rfl⟩ : ∃ id, ids = [id] := List.length_eq_one_iff.mp hids.length_eq.symm
    have hid : dom.StandsFor middle content id := by simpa using hids
    obtain ⟨more, hmore, hafter⟩ := hrest.target (front ++ [id]) back hmiddle
    refine ⟨id :: more, .cons ?_ ?_, by simpa using hafter⟩
    · cases content with
      | node link => exact hid
      | text text =>
          have hlt : id < middle.size := exists_payload?_iff.mp ⟨_, hid.2⟩
          exact ⟨hid.1, (hrest.payloads id hlt).trans hid.2⟩
    · refine hmore.imp fun content id hid => ?_
      cases content with
      | node link => exact hid
      | text text => exact ⟨Nat.le_trans hfirst.size_le hid.1, hid.2⟩
  payloads id hid :=
    (hrest.payloads id (Nat.lt_of_lt_of_le hid hfirst.size_le)).trans (hfirst.payloads id hid)

/-! ## Pieces at the end -/

/-- Pieces that extend a row in turn extend it together. -/
theorem Extends.append {row between result : List (NodeId × Option Payload)}
    {more : List Content} (hfirst : dom.Extends row contents between)
    (hmore : dom.Extends between more result) : dom.Extends row (contents ++ more) result := by
  induction hfirst with
  | done row => exact hmore
  | node row id contents _ _ ih => exact .node row id _ _ (ih hmore)
  | join row id old text contents _ _ ih => exact .join row id old text _ _ (ih hmore)
  | text row id text contents _ hlast hid _ ih => exact .text row id text _ _ hlast hid (ih hmore)

/-- A row is extended alike in an older document in which the pieces say the same. -/
theorem Extends.of_older {row result : List (NodeId × Option Payload)}
    (hextends : middle.Extends row contents result) (hsize : dom.size ≤ middle.size)
    (hsame : ∀ id, .node (some id) ∈ contents →
      middle.payload? (some id) = dom.payload? (some id)) :
    dom.Extends row contents result := by
  induction hextends with
  | done row => exact .done row
  | node row id contents _ _ ih =>
      refine .node row id _ _ ?_
      rw [← hsame id List.mem_cons_self]
      exact ih fun other hother => hsame other (List.mem_cons_of_mem _ hother)
  | join row id old text contents _ _ ih =>
      exact .join row id old text _ _
        (ih fun other hother => hsame other (List.mem_cons_of_mem _ hother))
  | text row id text contents _ hlast hid _ ih =>
      exact .text row id text _ _ hlast (Nat.le_trans hsize hid)
        (ih fun other hother => hsame other (List.mem_cons_of_mem _ hother))

/-- A node that is put at the end. -/
theorem WellFormed.row_append (h : dom.WellFormed) (hvalid : (Step.append previous id).Valid dom) :
    (dom.append (some previous) (some id)).row previous =
      dom.row previous ++ [(id, dom.payload? (some id))] := by
  simp only [row, h.children_append hvalid, if_pos, List.map_append, payload?_append,
    List.map_singleton]

/-- A node that is appended is behind the last child. -/
theorem WellFormed.putBehind_node (h : dom.WellFormed)
    (hvalid : (Step.append previous id).Valid dom) :
    dom.PutBehind (dom.append (some previous) (some id)) previous [.node (some id)] where
  wellFormed := (h.stores.step hvalid).wellFormed
  size_le := Nat.le_of_eq (size_append ..).symm
  parents other _ hother := by
    have hne : other ≠ id := by
      rintro rfl
      exact hother List.mem_cons_self
    rw [parentOf_append _ hvalid.2.1, Function.update_of_ne hne]
  others other _ hne := by
    rw [h.children_append hvalid, if_neg hne, List.append_nil]
  front := by
    rw [h.children_append hvalid]
    exact List.prefix_append _ _
  target := by
    rw [h.row_append hvalid]
    exact .node _ _ _ _ (.done _)
  payloads _ _ _ := payload?_append ..

/-- The row of a node whose last child is given something else to say. -/
theorem WellFormed.row_setPayload (h : dom.WellFormed) {front : List NodeId} {last : NodeId}
    (hfront : dom.children (some previous) = front ++ [last]) (payload : Payload) :
    (dom.update (some last) fun node => { node with payload }).row previous =
      front.map (fun id => (id, dom.payload? (some id))) ++ [(last, some payload)] := by
  have hlt : last < dom.size :=
    lt_of_under (h.mem_children.mp (hfront ▸ List.mem_append_right front List.mem_cons_self))
  have hnodup := h.nodup_children previous
  rw [hfront, List.nodup_append] at hnodup
  have hsame : ∀ id ∈ front, (id, (dom.update (some last) fun node =>
      { node with payload }).payload? (some id)) = (id, dom.payload? (some id)) := by
    intro id hid
    rw [payload?_setPayload hlt, if_neg (hnodup.2.2 id hid last List.mem_cons_self)]
  rw [row, h.children_setPayload, hfront, List.map_append, List.map_singleton,
    List.map_congr_left hsame, payload?_setPayload hlt, if_pos rfl]

/-- A text that joins the last child. -/
theorem WellFormed.putBehind_joined (h : dom.WellFormed) {last : NodeId} {old : String}
    (hlast : (dom.children (some previous)).getLast? = some last)
    (hold : dom.payload? (some last) = some (.text old)) (text : String) :
    dom.PutBehind (dom.update (some last) fun node => { node with payload := .text (old ++ text) })
      previous [.text text] := by
  obtain ⟨front, hfront⟩ := List.getLast?_eq_some_iff.mp hlast
  have hchildren := h.children_setPayload last (.text (old ++ text))
  refine ⟨⟨(h.stores.setPayload last _).wellFormed, Nat.le_of_eq (size_update ..).symm,
    fun id _ _ => congrFun ?_ id, fun other _ _ => hchildren other⟩, ?_, ?_, fun id _ hmem => ?_⟩
  · exact parentOf_update fun _ => rfl
  · exact hchildren previous ▸ List.prefix_refl _
  · rw [h.row_setPayload hfront, row, hfront, List.map_append, List.map_singleton, hold]
    exact .join _ _ _ _ _ _ (.done _)
  · rw [hchildren, hfront, List.mem_append, List.mem_singleton, not_or] at hmem
    rw [payload?_setPayload (exists_payload?_iff.mp ⟨_, hold⟩), if_neg hmem.2]

/-- A new node is in no row. -/
theorem WellFormed.row_create (h : dom.WellFormed) (payload : Payload) (above : NodeId) :
    (dom.create payload).1.row above = dom.row above := by
  rw [row, row, h.children_create]
  refine List.map_congr_left fun id hid => ?_
  rw [payload?_create dom payload (lt_of_under (h.mem_children.mp hid))]

/-- A text that is put behind a last child that is no text. -/
theorem WellFormed.putBehind_text (h : dom.WellFormed) (hprevious : previous < dom.size)
    (hlast : ∀ old, dom.payload? (dom.lastChild (some previous)) ≠ some (.text old))
    (text : String) :
    dom.PutBehind ((dom.create (.text text)).1.append (some previous) (some dom.size)) previous
      [.text text] := by
  have hcreated : (dom.create (.text text)).1.WellFormed := (h.stores.create _).wellFormed
  have hvalid := h.valid_append_new hprevious (.text text)
  refine ⟨(hcreated.putBehind_node hvalid).toReceived.of_create h, ?_, ?_, fun id hid _ => ?_⟩
  · rw [hcreated.children_append hvalid, h.children_create]
    exact List.prefix_append _ _
  · rw [hcreated.row_append hvalid, h.row_create, payload?_size_create]
    refine .text _ _ _ _ _ (fun last old hrow => ?_) (Nat.le_refl _) (.done _)
    rw [row, List.getLast?_map, Option.map_eq_some_iff] at hrow
    obtain ⟨found, hfound, heq⟩ := hrow
    obtain ⟨rfl, hold⟩ := Prod.mk.inj heq
    refine hlast old ?_
    rw [(h.stores.links_eq previous).2.2.1]
    exact (congrArg dom.payload? hfound).trans hold
  · rw [payload?_append, payload?_create _ _ hid]

/-- Text that is appended joins the last text, or is behind the last child. -/
theorem WellFormed.putBehind_appendText (h : dom.WellFormed) (hprevious : previous < dom.size)
    (text : String) :
    dom.PutBehind (dom.appendText (some previous) text) previous [.text text] := by
  by_cases htext : ∃ old, dom.payload? (dom.lastChild (some previous)) = some (.text old)
  · obtain ⟨old, hold⟩ := htext
    rw [appendText_of_text hold]
    cases hlast : dom.lastChild (some previous) with
    | none =>
        rw [hlast] at hold
        cases hold
    | some last =>
        rw [hlast] at hold
        exact h.putBehind_joined ((h.stores.links_eq previous).2.2.1.symm.trans hlast) hold text
  · rw [appendText_of_no_text (not_exists.mp htext)]
    exact h.putBehind_text hprevious (not_exists.mp htext) text

/-- A document has nothing new behind the last child. -/
theorem WellFormed.putBehind_nothing (h : dom.WellFormed) (previous : NodeId) :
    dom.PutBehind dom previous [] where
  toReceived := h.received_nothing previous
  front := List.prefix_refl _
  target := .done _
  payloads _ _ _ := rfl

/-- What is put behind the last child is followed by the rest. -/
theorem PutBehind.cons (hfirst : dom.PutBehind middle previous [content])
    (hrest : middle.PutBehind after previous contents)
    (hnodes : ∀ id, .node (some id) ∈ contents → id < dom.size ∧ middle.parentOf id = none) :
    dom.PutBehind after previous (content :: contents) where
  toReceived := hfirst.toReceived.cons hrest.toReceived
  front := hfirst.front.trans hrest.front
  target := by
    -- The other pieces stand nowhere yet, so the first one has not changed what they say.
    refine hfirst.target.append (hrest.target.of_older hfirst.size_le fun id hid => ?_)
    obtain ⟨hlt, hroot⟩ := hnodes id hid
    refine hfirst.payloads id hlt fun hmem => ?_
    rw [hfirst.wellFormed.mem_children, hroot] at hmem
    cases hmem
  payloads id hid hmem := by
    have hbefore : id ∉ middle.children (some previous) :=
      fun hmem' => hmem (hrest.front.subset hmem')
    rw [hrest.payloads id (Nat.lt_of_lt_of_le hid hfirst.size_le) hmem]
    exact hfirst.payloads id hid hbefore

end Dom

/-! ## All pieces -/

namespace Draft

open Dom

variable {draft : Draft} {element previous above : NodeId} {contents : List Content}

/-- The draft after misplaced contents are put beside an element, one after the other. -/
def appendAllBeside (draft : Draft) (element previous : NodeId) (contents : List Content) : Draft :=
  draft.run (contents.map (.appendBeside (some element) (some previous)))

/-- A piece that is put beside an element that stands somewhere. -/
theorem putBefore_one (h : draft.dom.WellFormed) (habove : draft.dom.parentOf element = some above)
    {content : Content} (hoffers : draft.dom.Offers element previous (content :: contents)) :
    draft.dom.PutBefore (draft.appendBeside (some element) (some previous) content).dom element
      above [content] := by
  have hattached : (draft.dom.parent (some element)).isSome := by
    rw [show draft.dom.parent (some element) = some above from habove]
    rfl
  rw [appendBeside, if_pos hattached]
  cases content with
  | text text => exact h.putBefore_text habove text
  | node link =>
      obtain ⟨id, rfl, hid, hroot, houtside, -⟩ := hoffers.fits link List.mem_cons_self
      exact h.putBefore_node ⟨lt_of_under habove, hid, habove ▸ Option.some_ne_none above, hroot,
        fun hbelow => houtside hbelow.to_reflTransGen⟩ habove

/-- A piece that is put beside an element that stands nowhere. -/
theorem putBehind_one (h : draft.dom.WellFormed) (hroot : draft.dom.parentOf element = none)
    (hprevious : previous < draft.dom.size) {content : Content}
    (hoffers : draft.dom.Offers element previous (content :: contents)) :
    draft.dom.PutBehind (draft.appendBeside (some element) (some previous) content).dom previous
      [content] := by
  have hloose : ¬ (draft.dom.parent (some element)).isSome := by
    rw [show draft.dom.parent (some element) = none from hroot]
    exact Bool.false_ne_true
  rw [appendBeside, if_neg hloose]
  cases content with
  | text text => exact h.putBehind_appendText hprevious text
  | node link =>
      obtain ⟨id, rfl, hid, hfree, -, houtside⟩ := hoffers.fits link List.mem_cons_self
      exact h.putBehind_node ⟨hprevious, hid, hfree, houtside⟩

/-- Where the element has a parent, all content is put before it. -/
theorem putBefore_all (h : draft.dom.WellFormed)
    (habove : draft.dom.parentOf element = some above) (hprevious : previous < draft.dom.size)
    (hoffers : draft.dom.Offers element previous contents) :
    draft.dom.PutBefore (draft.appendAllBeside element previous contents).dom element above
      contents := by
  induction contents generalizing draft with
  | nil => exact h.putBefore_nothing element above
  | cons content rest ih =>
      have helement : element < draft.dom.size := lt_of_under habove
      have hone := putBefore_one h habove hoffers
      have hthere := (hoffers.element_stays helement hone.toReceived).trans habove
      have hrest := hoffers.rest h helement hprevious hone.toReceived
      exact hone.cons
        (ih hone.wellFormed hthere (Nat.lt_of_lt_of_le hprevious hone.size_le) hrest)

/-- Where the element has no parent, all content is put behind the last child of the previous
element. -/
theorem putBehind_all (h : draft.dom.WellFormed) (hroot : draft.dom.parentOf element = none)
    (helement : element < draft.dom.size) (hprevious : previous < draft.dom.size)
    (hoffers : draft.dom.Offers element previous contents) :
    draft.dom.PutBehind (draft.appendAllBeside element previous contents).dom previous
      contents := by
  induction contents generalizing draft with
  | nil => exact h.putBehind_nothing previous
  | cons content rest ih =>
      have hone := putBehind_one h hroot hprevious hoffers
      have hloose := (hoffers.element_stays helement hone.toReceived).trans hroot
      have hrest := hoffers.rest h helement hprevious hone.toReceived
      refine hone.cons (ih hone.wellFormed hloose (Nat.lt_of_lt_of_le helement hone.size_le)
        (Nat.lt_of_lt_of_le hprevious hone.size_le) hrest) fun id hid => ?_
      obtain ⟨node, heq, hlt, -⟩ := hoffers.fits (some id) (List.mem_cons_of_mem content hid)
      obtain ⟨other, heq', -, hfree, -⟩ := hrest.fits (some id) hid
      cases heq
      cases heq'
      exact ⟨hlt, hfree⟩

/-- Misplaced contents keep their order. Beside an element that stands somewhere they come to stand
right before it, each text as a node of its own; beside one that stands nowhere they come to stand
at the end of `previous`, where a text joins one that is last. No other node gets other children. -/
theorem appendBeside_in_order (h : draft.dom.WellFormed) (helement : element < draft.dom.size)
    (hprevious : previous < draft.dom.size)
    (hoffers : draft.dom.Offers element previous contents) :
    (∀ above, draft.dom.parentOf element = some above →
      draft.dom.PutBefore (draft.appendAllBeside element previous contents).dom element above
        contents) ∧
    (draft.dom.parentOf element = none →
      draft.dom.PutBehind (draft.appendAllBeside element previous contents).dom previous
        contents) :=
  ⟨fun _ habove => putBefore_all h habove hprevious hoffers,
    fun hroot => putBehind_all h hroot helement hprevious hoffers⟩

/-- The steps that make a paragraph with a text, a table and another text, a bold element that
stands nowhere, and another table that stands nowhere. -/
def looseSteps : List Step :=
  [.create (.element (.html "p") []), .append 0 1, .appendText 1 "a",
    .create (.element (.html "table") []), .append 1 3, .appendText 1 "b",
    .create (.element (.html "b") []), .create (.element (.html "table") [])]

/-- Two texts with the bold element between them, and a third. -/
def looseContents : List Content :=
  [.text "c", .node (some 5), .text "d", .text "e"]

/-- The pieces are put before the table of the paragraph, and beside the table that stands nowhere
at the end of the paragraph. -/
theorem appendBeside_in_order_bold :
    let draft : Draft := { dom := Dom.empty.run looseSteps }
    let before := (draft.appendAllBeside 3 1 looseContents).dom
    let behind := (draft.appendAllBeside 6 1 looseContents).dom
    draft.dom.WellFormed ∧ draft.dom.Offers 3 1 looseContents ∧
      draft.dom.Offers 6 1 looseContents ∧
      draft.dom.parentOf 3 = some 1 ∧ draft.dom.parentOf 6 = none ∧
      draft.dom.PutBefore before 3 1 looseContents ∧
      before.children (some 1) = [2, 7, 5, 8, 9, 3, 4] ∧
      draft.dom.PutBehind behind 1 looseContents ∧
      behind.row 1 = [(2, some (.text "a")), (3, some (.element (.html "table") [])),
        (4, some (.text "bc")), (5, some (.element (.html "b") [])), (7, some (.text "de"))] := by
  intro draft before behind
  have hwell : draft.dom.WellFormed := wellFormed_empty.run (validRun_of_check (by decide))
  have hoffers : ∀ place, clears draft.dom.parentOf 8 place 5 = true →
      draft.dom.Offers place 1 looseContents := by
    refine fun place hclears => ⟨by decide, fun link hlink => ?_⟩
    obtain rfl : link = some 5 := by simpa [looseContents] using hlink
    exact ⟨5, rfl, by decide, by decide, not_within_of_clears hclears,
      not_within_of_clears (show clears draft.dom.parentOf 8 1 5 = true by decide)⟩
  have htable := hoffers 3 (by decide)
  have hloose := hoffers 6 (by decide)
  have hattached : draft.dom.parentOf 3 = some 1 := by decide
  have hroot : draft.dom.parentOf 6 = none := by decide
  exact ⟨hwell, htable, hloose, hattached, hroot,
    (appendBeside_in_order hwell (by decide) (by decide) htable).1 1 hattached, by decide,
    (appendBeside_in_order hwell (by decide) (by decide) hloose).2 hroot, by decide⟩

end Draft

end HtmlTemplate
