import HtmlTemplate.Proofs.Dom.Descendants
import HtmlTemplate.Proofs.Dom.Run
import HtmlTemplate.Proofs.Rendering.Pieces

/-!
# The nodes that a rendering treats

`Dom.write` walks a subtree and writes as it goes. Here the walk is told apart from the writing: the
walk is a list of events (`Dom.events`), and `Dom.perform` writes what one event asks for, so that a
rendering is its events performed in turn (`write_eq_perform`). An event `visit` is a node being
treated: its own text is written, or it is listed as left out.

The nodes visited are the descendants of the root that open elements lead to
(`WellFormed.visited_events`).
-/

namespace HtmlTemplate

/-- A moment of the walk through a subtree. -/
inductive Event where
  /-- A node is treated, before what is below it. -/
  | visit (id : NodeId)
  /-- The line of an item begins. -/
  | line
  /-- An item ends. -/
  | stop
  /-- The items of an element end. -/
  | close

/-- The node that an event treats. -/
def Event.node? : Event → Option NodeId
  | .visit id => some id
  | .line | .stop | .close => none

namespace Dom

/-- Whether a node is an element that takes a list of nodes. -/
def isOpen (catalog : Catalog) (dom : Dom) (id : NodeId) : Bool :=
  match dom.payload? (some id) with
  | some (.element name _) => catalog.tagKind (Ascii.lower name.localName) = .normal
  | _ => false

/-- The events of one item: a node without a form is only treated, any other has a line. -/
def itemEvents (dom : Dom) (childEvents : NodeId → List Event) (child : NodeId) : List Event :=
  match dom.formless? child with
  | some _ => [.visit child]
  | none => .line :: childEvents child ++ [.stop]

/-- The events of a subtree that reaches down less than `levels` levels. -/
def events (catalog : Catalog) (dom : Dom) : Nat → NodeId → List Event
  | 0, _ => []
  | levels + 1, id =>
      .visit id ::
        if dom.isOpen catalog id then
          (dom.children (some id)).flatMap (dom.itemEvents (events catalog dom levels)) ++ [.close]
        else []

/-- Writes what an event asks for. -/
def perform (catalog : Catalog) (dom : Dom) (out : Rendering) : Event → Rendering
  | .visit id =>
      match dom.payload? (some id) with
      | none => out.note (.dangling (some id))
      | some (.comment text) => (out.push "comment ").pushText text
      | some (.text text) => (out.push "txt ").pushText text
      | some (.element name attributes) =>
          let tag := Ascii.lower name.localName
          let opened := out.pushHeader catalog tag attributes
          match catalog.tagKind tag with
          | .void => opened
          | .text => opened.pushText (dom.textContent (some id))
          | .normal => opened.push "["
      | some payload => out.skip id payload.kind
  | .line => out.push "\n"
  | .stop => out.push ";"
  | .close => out.push "]"

variable {catalog : Catalog} {dom : Dom} {id root : NodeId}

/-! ## A rendering is its events -/

/-- Treating a node without a form lists it. -/
theorem perform_visit_of_formless {kind : Kind} (h : dom.formless? id = some kind)
    (out : Rendering) : dom.perform catalog out (.visit id) = out.skip id kind := by
  obtain ⟨payload, hpayload, rfl, hform⟩ := exists_payload_of_formless h
  rw [perform, hpayload]
  cases payload with
  | element | text | comment => cases hform
  | _ => rfl

/-- Writing an item is performing its events, when that is so of what writes the child. -/
theorem writeItem_eq_perform {writeChild : NodeId → Rendering → Rendering}
    {childEvents : NodeId → List Event}
    (h : ∀ child out, writeChild child out = (childEvents child).foldl (dom.perform catalog) out)
    (out : Rendering) (child : NodeId) :
    dom.writeItem writeChild out child =
      (dom.itemEvents childEvents child).foldl (dom.perform catalog) out := by
  rw [writeItem, itemEvents]
  cases hform : dom.formless? child with
  | some kind => exact (perform_visit_of_formless hform out).symm
  | none =>
      show (writeChild child (out.push "\n")).push ";" = _
      rw [h, List.foldl_append, List.foldl_cons]
      rfl

/-- Writing a node is performing its events. -/
theorem write_eq_perform (catalog : Catalog) (dom : Dom) (levels : Nat) (id : NodeId)
    (out : Rendering) :
    dom.write catalog levels id out =
      (dom.events catalog levels id).foldl (dom.perform catalog) out := by
  induction levels generalizing id out with
  | zero => rfl
  | succ levels ih =>
      rw [write, events, List.foldl_cons, perform, isOpen]
      cases hpayload : dom.payload? (some id) with
      | none => rfl
      | some payload =>
          cases payload with
          | element name attributes =>
              cases htag : catalog.tagKind (Ascii.lower name.localName) with
              | void => simp [htag]
              | text => simp [htag]
              | normal =>
                  -- Writing the items in turn is performing the events of each in turn.
                  simp only [htag, decide_true, if_true]
                  rw [List.foldl_append, List.foldl_flatMap]
                  simp only [← writeItem_eq_perform ih]
                  rfl
          | _ => rfl

/-! ## What is visited -/

/-- The nodes that events treat, in turn. -/
def visited (events : List Event) : List NodeId :=
  events.filterMap Event.node?

/-- A node is visited first, and then the children that an open element has. -/
theorem visited_events_succ (catalog : Catalog) (dom : Dom) (levels : Nat) (id : NodeId) :
    visited (dom.events catalog (levels + 1) id) =
      id :: if dom.isOpen catalog id then
          (dom.children (some id)).flatMap fun child =>
            visited (dom.itemEvents (dom.events catalog levels) child)
        else [] := by
  rw [events]
  by_cases hopen : dom.isOpen catalog id
  · simp only [hopen, if_true, visited,
      List.filterMap_cons_some (rfl : Event.node? (.visit id) = _), List.filterMap_append,
      List.filterMap_flatMap]
    simp [Event.node?]
  · simp [hopen, visited, Event.node?]

/-- A node without a form is no open element. -/
theorem isOpen_of_formless {kind : Kind} (h : dom.formless? id = some kind) :
    dom.isOpen catalog id = false := by
  obtain ⟨payload, hpayload, -, hform⟩ := exists_payload_of_formless h
  rw [isOpen, hpayload]
  cases payload with
  | element => cases hform
  | _ => rfl

/-- An open element is an element that takes a list of nodes. -/
theorem exists_of_isOpen (h : dom.isOpen catalog id = true) :
    ∃ name attributes, dom.payload? (some id) = some (.element name attributes) ∧
      catalog.tagKind (Ascii.lower name.localName) = .normal := by
  rw [isOpen] at h
  split at h
  next name attributes hpayload => exact ⟨name, attributes, hpayload, of_decide_eq_true h⟩
  next => cases h

/-- An item treats what its child's own events treat. -/
theorem visited_itemEvents {levels : Nat} {child : NodeId} (h : dom.Fits levels child) :
    visited (dom.itemEvents (dom.events catalog levels) child) =
      visited (dom.events catalog levels child) := by
  rw [itemEvents]
  cases hform : dom.formless? child with
  | none =>
      show List.filterMap Event.node? (.line :: dom.events catalog levels child ++ [.stop]) = _
      rw [List.cons_append, List.filterMap_cons_none rfl, List.filterMap_append]
      exact List.append_nil _
  | some kind =>
      cases levels with
      | zero => exact h.elim
      | succ levels =>
          rw [visited_events_succ, isOpen_of_formless hform]
          rfl

/-- Room for more levels than a node has below it brings no further events. -/
theorem Fits.events_eq {levels more : Nat} (h : dom.Fits levels id) (hle : levels ≤ more) :
    dom.events catalog more id = dom.events catalog levels id := by
  induction levels generalizing more id with
  | zero => exact h.elim
  | succ levels ih =>
      cases more with
      | zero => exact absurd hle (Nat.not_succ_le_zero _)
      | succ more =>
          have hitems : ∀ child ∈ dom.children (some id),
              dom.itemEvents (dom.events catalog more) child =
                dom.itemEvents (dom.events catalog levels) child := by
            intro child hchild
            rw [itemEvents, itemEvents, ih (h child hchild) (Nat.le_of_succ_le_succ hle)]
          rw [events, events, List.flatMap_congr hitems]

/-- The nodes that the rendering of a node treats, in turn. -/
def treated (catalog : Catalog) (dom : Dom) (root : NodeId) : List NodeId :=
  visited (dom.events catalog (dom.size + 1) root)

/-- A node is treated first, and then what the children of an open element treat. -/
theorem Traversable.treated_eq (h : dom.Traversable) (catalog : Catalog) (id : NodeId) :
    dom.treated catalog id =
      id :: if dom.isOpen catalog id then
          (dom.children (some id)).flatMap (dom.treated catalog)
        else [] := by
  have hchildren : ∀ child ∈ dom.children (some id),
      visited (dom.itemEvents (dom.events catalog dom.size) child) = dom.treated catalog child := by
    intro child hchild
    have hfits : dom.Fits dom.size child := h.fits id child hchild
    rw [visited_itemEvents hfits, treated, hfits.events_eq (Nat.le_succ _)]
  rw [treated, visited_events_succ, List.flatMap_congr hchildren]

/-- The rendering of a node treats the node. -/
theorem Traversable.mem_treated_self (h : dom.Traversable) (id : NodeId) :
    id ∈ dom.treated catalog id := by
  rw [h.treated_eq]
  exact List.mem_cons_self

/-- What is treated with a child of an open element is treated with the element. -/
theorem Traversable.mem_treated_of_child (h : dom.Traversable) {child : NodeId}
    (hopen : dom.isOpen catalog root = true) (hchild : child ∈ dom.children (some root))
    (hid : id ∈ dom.treated catalog child) : id ∈ dom.treated catalog root := by
  rw [h.treated_eq, if_pos hopen]
  exact List.mem_cons_of_mem _ (List.mem_flatMap.mpr ⟨child, hchild, hid⟩)

/-- Every proper ancestor of `id` up to `root` is an element that takes a list of nodes. -/
def LeadsTo (catalog : Catalog) (dom : Dom) (root id : NodeId) : Prop :=
  ∀ above, Below dom.parentOf id above → Within dom.parentOf above root →
    dom.isOpen catalog above = true

open scoped Classical in
/-- The descendants of a node, in document order, that open elements lead to. -/
noncomputable def reached (catalog : Catalog) (dom : Dom) (root : NodeId) : List NodeId :=
  (dom.descendants (some root)).filter fun id => dom.LeadsTo catalog root id

/-- A node leads to itself. -/
theorem WellFormed.leadsTo_self (h : dom.WellFormed) (root : NodeId) :
    dom.LeadsTo catalog root root :=
  fun _ hbelow hwithin => (h.acyclic root (hbelow.trans_left hwithin)).elim

/-- Below a child, one ancestor more has to be open: the parent. -/
theorem WellFormed.leadsTo_iff_of_child (h : dom.WellFormed) {child : NodeId}
    (hchild : dom.parentOf child = some root) (hid : Within dom.parentOf id child) :
    dom.LeadsTo catalog root id ↔
      dom.isOpen catalog root = true ∧ dom.LeadsTo catalog child id := by
  constructor
  · intro hleads
    refine ⟨hleads root (Relation.TransGen.tail' hid hchild) .refl, fun above hbelow hwithin => ?_⟩
    exact hleads above hbelow (hwithin.tail hchild)
  · rintro ⟨hopen, hleads⟩ above hbelow hwithin
    -- An ancestor of `id` is within `child`, or it is above `child` and then it is `root`.
    rcases within_total hid hbelow.to_reflTransGen with hup | hdown
    · rcases (within_iff_of_under hchild).mp hup with rfl | hup
      · exact hleads above hbelow .refl
      · rw [← h.acyclic.within_antisymm hup hwithin]
        exact hopen
    · exact hleads above hbelow hdown

/-- The events of a node treat the descendants that open elements lead to. -/
theorem WellFormed.visited_events (h : dom.WellFormed) {levels : Nat} (hid : id < dom.size)
    (hfits : dom.Fits levels id) :
    visited (dom.events catalog levels id) = dom.reached catalog id := by
  induction levels generalizing id with
  | zero => exact hfits.elim
  | succ levels ih =>
      have hchildren : ∀ child ∈ dom.children (some id),
          visited (dom.itemEvents (dom.events catalog levels) child) = dom.reached catalog child :=
        fun child hchild => by
          rw [visited_itemEvents (hfits child hchild)]
          exact ih (lt_of_under (h.mem_children.mp hchild)) (hfits child hchild)
      rw [visited_events_succ, List.flatMap_congr hchildren, reached, h.descendants_eq hid,
        List.filter_cons_of_pos (by simpa using h.leadsTo_self id), List.filter_flatMap]
      -- What is below a child is led to through `id`, so a closed `id` leads to nothing else.
      have hbelow : ∀ child ∈ dom.children (some id), ∀ below ∈ dom.descendants (some child),
          dom.LeadsTo catalog id below ↔
            dom.isOpen catalog id = true ∧ dom.LeadsTo catalog child below :=
        fun child hchild below hbelow => by
          have hunder := h.mem_children.mp hchild
          rw [h.mem_descendants (lt_of_under hunder)] at hbelow
          exact h.leadsTo_iff_of_child hunder hbelow
      by_cases hopen : dom.isOpen catalog id = true
      · rw [if_pos hopen]
        congr 1
        refine List.flatMap_congr fun child hchild => List.filter_congr fun below hmem => ?_
        simp [hbelow child hchild below hmem, hopen]
      · rw [if_neg hopen]
        congr 1
        refine (List.flatMap_eq_nil_iff.mpr fun child hchild => ?_).symm
        refine List.filter_eq_nil_iff.mpr fun below hmem => ?_
        simp [hbelow child hchild below hmem, hopen]

/-- The rendering of a node of a well-formed document treats the descendants that open elements lead
to. -/
theorem WellFormed.treated_eq (h : dom.WellFormed) (catalog : Catalog) (hroot : root < dom.size) :
    dom.treated catalog root = dom.reached catalog root :=
  h.visited_events hroot ((h.fits hroot).mono (Nat.le_succ _))

/-- The nodes that are reached are those in the subtree to which the way is open. -/
theorem WellFormed.mem_reached (h : dom.WellFormed) (hroot : root < dom.size) :
    id ∈ dom.reached catalog root ↔
      Within dom.parentOf id root ∧ dom.LeadsTo catalog root id := by
  rw [reached, List.mem_filter, h.mem_descendants hroot]
  simp only [decide_eq_true_eq]

/-- A node that is there is reached from itself. -/
theorem WellFormed.mem_reached_self (h : dom.WellFormed) (hroot : root < dom.size) :
    root ∈ dom.reached catalog root :=
  (h.mem_reached hroot).mpr ⟨.refl, h.leadsTo_self root⟩

/-- Of what is within a child of an open element, the same is reached from the child and from the
element. -/
theorem WellFormed.mem_reached_iff_of_child (h : dom.WellFormed) {child : NodeId}
    (hopen : dom.isOpen catalog root = true) (hchild : child ∈ dom.children (some root))
    (hid : Within dom.parentOf id child) :
    id ∈ dom.reached catalog root ↔ id ∈ dom.reached catalog child := by
  have hunder := h.mem_children.mp hchild
  have hwithin : Within dom.parentOf id root := hid.tail hunder
  rw [h.mem_reached (h.parent_lt hunder), h.mem_reached (lt_of_under hunder),
    h.leadsTo_iff_of_child hunder hid, and_iff_right hwithin, and_iff_right hopen,
    and_iff_right hid]

/-- No node is reached twice. -/
theorem WellFormed.nodup_reached (h : dom.WellFormed) (root : NodeId) :
    (dom.reached catalog root).Nodup :=
  (h.nodup_descendants root).filter _

/-! ## What is left out -/

/-- The entry that lists a node as left out: a node of one of the four kinds without a form. -/
def leftOut? (dom : Dom) (id : NodeId) : Option Skipped :=
  ((dom.kind? (some id)).filter fun kind =>
    kind = .document ∨ kind = .fragment ∨ kind = .doctype ∨ kind = .instruction).map (Skipped.mk id)

/-- Treating a node lists it exactly if it is of one of these kinds. -/
theorem skipped_perform_visit (out : Rendering) (id : NodeId) :
    (dom.perform catalog out (.visit id)).skipped = out.skipped ++ (dom.leftOut? id).toList := by
  rw [perform, leftOut?, kind?_eq]
  cases dom.payload? (some id) with
  | none => exact (List.append_nil _).symm
  | some payload =>
      cases payload with
      | element name attributes =>
          have hheader :
              (out.pushHeader catalog (Ascii.lower name.localName) attributes).skipped =
                out.skipped := by
            rw [Rendering.pushHeader_eq]
            rfl
          cases htag : catalog.tagKind (Ascii.lower name.localName) with
          | void | text | normal =>
              simp only [htag]
              exact hheader.trans (List.append_nil _).symm
      | text | comment => exact (List.append_nil _).symm
      | _ => rfl

/-- Events list the nodes among those they treat that have no form, in turn. -/
theorem skipped_foldl_perform (events : List Event) (out : Rendering) :
    (events.foldl (dom.perform catalog) out).skipped =
      out.skipped ++ (visited events).filterMap dom.leftOut? := by
  induction events generalizing out with
  | nil => simp [visited]
  | cons event events ih =>
      rw [List.foldl_cons, ih]
      cases event with
      | visit id =>
          show _ = out.skipped ++ (id :: visited events).filterMap dom.leftOut?
          rw [skipped_perform_visit, List.append_assoc]
          cases hleft : dom.leftOut? id with
          | none =>
              rw [List.filterMap_cons_none hleft]
              rfl
          | some entry =>
              rw [List.filterMap_cons_some hleft]
              rfl
      | line | stop | close => rfl

/-- An entry names the node it is made from. -/
theorem id_of_leftOut? {entry : Skipped} (h : dom.leftOut? id = some entry) : entry.id = id := by
  obtain ⟨kind, -, rfl⟩ := Option.map_eq_some_iff.mp h
  rfl

/-- Nodes that are listed once have entries that are listed once. -/
theorem nodup_leftOut {ids : List NodeId} (h : ids.Nodup) : (ids.filterMap dom.leftOut?).Nodup :=
  h.filterMap fun id other entry hid hother => by
    rw [← id_of_leftOut? hid, ← id_of_leftOut? hother]

/-- A rendering lists those of the nodes it treats that have no form. -/
theorem skipped_render (catalog : Catalog) (dom : Dom) (root : NodeId) :
    (dom.render catalog (some root)).skipped =
      (visited (dom.events catalog (dom.size + 1) root)).filterMap dom.leftOut? := by
  show (dom.write catalog (dom.size + 1) root .empty).skipped = _
  rw [write_eq_perform, skipped_foldl_perform]
  exact List.nil_append _

/-- What a rendering lists as left out are nodes of the kinds that have no form. -/
theorem leftOut?_of_mem_skipped {entry : Skipped}
    (h : entry ∈ (dom.render catalog (some root)).skipped) :
    dom.leftOut? entry.id = some entry := by
  rw [skipped_render] at h
  obtain ⟨id, -, hleft⟩ := List.mem_filterMap.mp h
  rw [id_of_leftOut? hleft, hleft]

/-! ## The rendering of a well-formed document -/

/-- The rendering of an existing node treats the descendants that open elements lead to, each once
and in document order, however many levels the walk has room for beyond the size of the document.
It lists those of them that have no form. -/
theorem WellFormed.render_visits (h : dom.WellFormed) (catalog : Catalog)
    (hroot : root < dom.size) :
    let events := dom.events catalog (dom.size + 1) root
    visited events = dom.reached catalog root ∧
      (dom.reached catalog root).Nodup ∧
      (∀ levels out, dom.size ≤ levels →
        dom.write catalog levels root out = events.foldl (dom.perform catalog) out) ∧
      (dom.render catalog (some root)).skipped = (dom.reached catalog root).filterMap dom.leftOut? ∧
      (dom.render catalog (some root)).skipped.Nodup := by
  intro events
  have hfits := h.fits hroot
  have hvisited : visited events = dom.reached catalog root :=
    h.visited_events hroot (hfits.mono (Nat.le_succ _))
  have hskipped : (dom.render catalog (some root)).skipped =
      (dom.reached catalog root).filterMap dom.leftOut? := by
    show (dom.write catalog (dom.size + 1) root .empty).skipped = _
    rw [write_eq_perform, skipped_foldl_perform, hvisited]
    exact List.nil_append _
  refine ⟨hvisited, h.nodup_reached root, fun levels out hlevels => ?_, hskipped, ?_⟩
  · rw [write_eq_perform, hfits.events_eq hlevels]
    show _ = (dom.events catalog (dom.size + 1) root).foldl _ out
    rw [hfits.events_eq (Nat.le_succ _)]
  · rw [hskipped]
    exact nodup_leftOut (h.nodup_reached root)

/-- The steps that make a list of a document type, which has no form, and a line break, which has a
comment below it. -/
def breakSteps : List Step :=
  [.create (.element (.html "UL") []), .append 0 1, .create (.doctype "html" "" ""), .append 1 2,
    .create (.element (.html "br") []), .append 1 3, .create (.comment "unseen"), .append 3 4]

/-- The document is built by valid steps. -/
theorem validRun_breakSteps : Dom.empty.ValidRun breakSteps :=
  validRun_of_check (by decide)

/-- The comment below the line break is not treated, and the document type is treated and left
out. -/
theorem render_visits_break :
    (Dom.empty.run breakSteps).WellFormed ∧ 1 < (Dom.empty.run breakSteps).size ∧
      (Dom.empty.run breakSteps).reached (Catalog.empty.registerTags .void ["br"]) 1 = [1, 2, 3] ∧
      ((Dom.empty.run breakSteps).render (Catalog.empty.registerTags .void ["br"])
        (some 1)).skipped.Nodup := by
  have hwell := wellFormed_empty.run validRun_breakSteps
  obtain ⟨hvisited, -, -, -, hskipped⟩ := hwell.render_visits
    (Catalog.empty.registerTags .void ["br"]) (show 1 < _ by decide)
  exact ⟨hwell, by decide, hvisited.symm.trans (by decide), hskipped⟩

end Dom

end HtmlTemplate
