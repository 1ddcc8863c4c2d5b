import HtmlTemplate.Proofs.Dom.Operations
import HtmlTemplate.Proofs.Draft.Attributes

/-!
# Calls on a draft

A `Call` is one call of an operation that changes a draft, with any arguments: links that are absent
or name no node, nodes that stand somewhere already. `Draft.run` makes calls in turn. Nodes are only
ever added, and what a node says only grows (`Draft.persists_run`): text gets more text behind it,
an element more attributes behind those it has, and every other payload stays as it is. So a number
once given keeps its meaning, and no number is given twice (`Draft.run_persistent`).
-/

namespace HtmlTemplate

/-- A call of an operation that changes a draft. -/
inductive Call where
  | element (name : QualifiedName) (attributes : List Attribute)
  | comment (content : String)
  | instruction (target data : String)
  | append (parent : Link) (content : Content)
  | insertBefore (sibling : Link) (content : Content)
  | appendBeside (element previous : Link) (content : Content)
  | appendDoctype (name publicId systemId : String)
  | templateContents (element : Link)
  | addMissingAttributes (element : Link) (attributes : List Attribute)
  | detach (link : Link)
  | reparentChildren (node parent : Link)
  | setMode (mode : CompatMode)
  | fault

namespace Call

/-- The draft after a call. -/
def apply (draft : Draft) : Call → Draft
  | .element name attributes => (draft.create (.element name attributes)).1
  | .comment content => (draft.create (.comment content)).1
  | .instruction target data => (draft.create (.instruction target data)).1
  | .append parent content => draft.append parent content
  | .insertBefore sibling content => draft.insertBefore sibling content
  | .appendBeside beside previous content => draft.appendBeside beside previous content
  | .appendDoctype name publicId systemId => draft.appendDoctype name publicId systemId
  | .templateContents link => (draft.templateContents link).1
  | .addMissingAttributes link attributes => draft.addMissingAttributes link attributes
  | .detach link => draft.detach link
  | .reparentChildren node parent => draft.reparentChildren node parent
  | .setMode mode => draft.setMode mode
  | .fault => draft.fault

/-- The number that a call gives back for a node it makes. A call for the contents of an element
makes a node only the first time. -/
def made? (draft : Draft) : Call → Option NodeId
  | .element name attributes => some (draft.create (.element name attributes)).2
  | .comment content => some (draft.create (.comment content)).2
  | .instruction target data => some (draft.create (.instruction target data)).2
  | .templateContents link =>
      if (draft.contents.lookup link).isSome then none
      else some (draft.templateContents link).2
  | _ => none

end Call

/-- One payload is another, or what becomes of it when text or attributes are added. -/
inductive Payload.Grows : Payload → Payload → Prop where
  | same (payload : Payload) : Grows payload payload
  | text (old more : String) : Grows (.text old) (.text (old ++ more))
  | element (name : QualifiedName) (old more : List Attribute) :
      Grows (.element name old) (.element name (old ++ more))

namespace Payload.Grows

variable {first second third : Payload}

/-- What has grown twice has grown. -/
theorem trans (h : Grows first second) (hmore : Grows second third) : Grows first third := by
  cases h with
  | same => exact hmore
  | text old more =>
      cases hmore with
      | same => exact .text old more
      | text _ further =>
          rw [String.append_assoc]
          exact .text old (more ++ further)
  | element name old more =>
      cases hmore with
      | same => exact .element name old more
      | element _ _ further =>
          rw [List.append_assoc]
          exact .element name old (more ++ further)

/-- A payload that grows stays of its kind. -/
theorem kind_eq (h : Grows first second) : second.kind = first.kind := by
  cases h <;> rfl

/-- Adding attributes lets a payload grow. -/
theorem addAttributes (attributes : List Attribute) (payload : Payload) :
    Grows payload (payload.addAttributes attributes) := by
  cases payload with
  | element name old =>
      obtain ⟨more, hmore⟩ := Draft.exists_foldl_addAttribute old attributes
      rw [Payload.addAttributes, hmore]
      exact .element name old more
  | _ => exact .same _

end Payload.Grows

namespace Dom

/-- Every node of a document is still there in another, where it says the same or more. -/
def Persists (dom after : Dom) : Prop :=
  ∀ id payload, dom.payload? (some id) = some payload →
    ∃ later, after.payload? (some id) = some later ∧ payload.Grows later

variable {dom middle after : Dom} {id : NodeId}

namespace Persists

/-- Where all payloads are as before, all nodes persist. -/
theorem of_payload?_eq (h : ∀ id, after.payload? (some id) = dom.payload? (some id)) :
    dom.Persists after :=
  fun id payload hpayload => ⟨payload, (h id).trans hpayload, .same payload⟩

/-- Every node of a document persists in it. -/
theorem refl (dom : Dom) : dom.Persists dom :=
  of_payload?_eq fun _ => rfl

/-- What persists twice has persisted. -/
theorem trans (h : dom.Persists middle) (hmore : middle.Persists after) : dom.Persists after := by
  intro id payload hpayload
  obtain ⟨later, hlater, hgrows⟩ := h id payload hpayload
  obtain ⟨last, hlast, hmore⟩ := hmore id later hlater
  exact ⟨last, hlast, hgrows.trans hmore⟩

end Persists

/-- The nodes that exist are those that say something. -/
theorem exists_payload?_iff :
    (∃ payload, dom.payload? (some id) = some payload) ↔ id < dom.size := by
  rw [← Option.ne_none_iff_exists', payload?, Ne, Option.map_eq_none_iff, get?_eq_none_iff,
    Nat.not_le]

/-- No node gets lost. -/
theorem Persists.size_le (h : dom.Persists after) : dom.size ≤ after.size := by
  refine Nat.not_lt.mp fun hlt => ?_
  obtain ⟨payload, hpayload⟩ := exists_payload?_iff.mpr hlt
  obtain ⟨later, hlater, -⟩ := h _ payload hpayload
  exact Nat.lt_irrefl _ (exists_payload?_iff.mp ⟨later, hlater⟩)

/-! ## What operations leave of the nodes -/

/-- A new node leaves the others as they are. -/
theorem persists_create (dom : Dom) (payload : Payload) : dom.Persists (dom.create payload).1 := by
  intro id old hold
  have hne : (some id : Link) ≠ some dom.size := fun heq =>
    Nat.lt_irrefl dom.size (Option.some.inj heq ▸ exists_payload?_iff.mp ⟨old, hold⟩)
  refine ⟨old, ?_, .same old⟩
  rw [payload?, get?_create, if_neg hne]
  exact hold

/-- Appending leaves payloads as they are. -/
theorem persists_append (dom : Dom) (parent child : Link) :
    dom.Persists (dom.append parent child) :=
  .of_payload?_eq (payload?_append dom parent child)

/-- Inserting leaves payloads as they are. -/
theorem persists_insertBefore (dom : Dom) (sibling new : Link) :
    dom.Persists (dom.insertBefore sibling new) :=
  .of_payload?_eq (payload?_insertBefore dom sibling new)

/-- Taking out leaves payloads as they are. -/
theorem persists_detach (dom : Dom) (link : Link) : dom.Persists (dom.detach link) :=
  .of_payload?_eq (payload?_detach dom link)

/-- An update that makes a payload grow. -/
theorem persists_update {link : Link} {change : Node → Node}
    (h : ∀ node, dom.get? link = some node → node.payload.Grows (change node).payload) :
    dom.Persists (dom.update link change) := by
  intro id payload hpayload
  obtain ⟨node, hnode, rfl⟩ := Option.map_eq_some_iff.mp hpayload
  rw [payload?, get?_update]
  split
  · next heq =>
      rw [heq] at h
      exact ⟨(change node).payload, by rw [hnode]; rfl, h node hnode⟩
  · exact ⟨node.payload, by rw [hnode]; rfl, .same _⟩

/-- Text that is appended makes a node or lets the last text grow. -/
theorem persists_appendText (dom : Dom) (parent : Link) (text : String) :
    dom.Persists (dom.appendText parent text) := by
  by_cases htext : ∃ old, dom.payload? (dom.lastChild parent) = some (.text old)
  · obtain ⟨old, hold⟩ := htext
    rw [appendText_of_text hold]
    -- Where the link to the last child leads does not matter, only that a text is there.
    refine persists_update fun node hnode => ?_
    obtain ⟨last, hlast, hpayload⟩ := Option.map_eq_some_iff.mp hold
    cases Option.some.inj (hlast.symm.trans hnode)
    rw [hpayload]
    exact .text old text
  · rw [appendText_of_no_text (not_exists.mp htext)]
    exact (persists_create dom (.text text)).trans (persists_append _ _ _)

/-- Moving nodes one after the other changes none of them. -/
theorem persists_foldl_move (parent : Link) (ids : List NodeId) (dom : Dom) :
    dom.Persists (ids.foldl
      (fun dom child => (dom.detach (some child)).append parent (some child)) dom) := by
  induction ids generalizing dom with
  | nil => exact .refl dom
  | cons id ids ih =>
      exact ((persists_detach dom (some id)).trans (persists_append _ _ _)).trans (ih _)

end Dom

namespace Draft

/-- The draft after a list of calls. -/
def run (draft : Draft) (calls : List Call) : Draft :=
  calls.foldl Call.apply draft

/-- The numbers that calls give back for the nodes they make, in turn. -/
def made (draft : Draft) : List Call → List NodeId
  | [] => []
  | call :: rest => (call.made? draft).toList ++ made (call.apply draft) rest

variable {draft : Draft} {calls : List Call} {id : NodeId}

/-- Calls are made in order. -/
theorem run_append (draft : Draft) (calls more : List Call) :
    draft.run (calls ++ more) = (draft.run calls).run more :=
  List.foldl_append

/-! ## What calls leave of the nodes -/

/-- Content that is appended leaves the nodes as they are, or lets the last text grow. -/
theorem persists_appendContent (draft : Draft) (parent : Link) (content : Content) :
    draft.dom.Persists (draft.append parent content).dom := by
  cases content with
  | node link => exact Dom.persists_append _ _ _
  | text text => exact Dom.persists_appendText _ _ _

/-- Content that is inserted leaves the nodes as they are. -/
theorem persists_insertContent (draft : Draft) (sibling : Link) (content : Content) :
    draft.dom.Persists (draft.insertBefore sibling content).dom := by
  cases content with
  | node link => exact Dom.persists_insertBefore _ _ _
  | text text => exact (Dom.persists_create _ _).trans (Dom.persists_insertBefore _ _ _)

/-- A call leaves every node there, saying the same or more. -/
theorem persists_call (draft : Draft) (call : Call) :
    draft.dom.Persists (call.apply draft).dom := by
  cases call with
  | element | comment | instruction => exact Dom.persists_create _ _
  | append parent content => exact draft.persists_appendContent parent content
  | insertBefore sibling content => exact draft.persists_insertContent sibling content
  | appendBeside element previous content =>
      rw [Call.apply, appendBeside]
      split
      · exact draft.persists_insertContent element content
      · exact draft.persists_appendContent previous content
  | appendDoctype => exact (Dom.persists_create _ _).trans (Dom.persists_append _ _ _)
  | templateContents element =>
      rw [Call.apply, templateContents]
      split
      · exact .refl _
      · exact Dom.persists_create _ _
  | addMissingAttributes element attributes =>
      rw [Call.apply, dom_addMissingAttributes]
      exact Dom.persists_update fun node _ => .addAttributes attributes node.payload
  | detach => exact Dom.persists_detach _ _
  | reparentChildren node parent => exact Dom.persists_foldl_move _ _ _
  | setMode | fault => exact .refl _

/-- So do calls in turn. -/
theorem persists_run (draft : Draft) (calls : List Call) :
    draft.dom.Persists (draft.run calls).dom := by
  induction calls generalizing draft with
  | nil => exact .refl _
  | cons call calls ih => exact (draft.persists_call call).trans (ih (call.apply draft))

/-! ## Numbers of nodes -/

/-- A node that a call makes and gives back gets the next number. -/
theorem size_of_made {call : Call} (h : call.made? draft = some id) :
    id = draft.dom.size ∧ (call.apply draft).dom.size = draft.dom.size + 1 := by
  cases call with
  | element | comment | instruction =>
      cases h
      exact ⟨rfl, Dom.size_create _ _⟩
  | templateContents element =>
      cases hlookup : draft.contents.lookup element with
      | some fragment => simp [Call.made?, hlookup] at h
      | none =>
          simp only [Call.made?, Call.apply, templateContents, hlookup] at h ⊢
          cases h
          exact ⟨rfl, Dom.size_create _ _⟩
  | _ => cases h

/-- A node that a call makes is there afterwards. -/
theorem lt_of_made {call : Call} (h : call.made? draft = some id) :
    id < (call.apply draft).dom.size := by
  obtain ⟨rfl, hsize⟩ := size_of_made h
  rw [hsize]
  exact Nat.lt_succ_self _

/-- Numbers that calls give back lie between the numbers of the nodes that were there before and the
size of the document afterwards, and each is greater than those before it. -/
theorem made_increasing (draft : Draft) (calls : List Call) :
    (draft.made calls).Pairwise (· < ·) ∧
      ∀ id ∈ draft.made calls, draft.dom.size ≤ id ∧ id < (draft.run calls).dom.size := by
  -- The bounds are what puts the first number before those of the other calls.
  induction calls generalizing draft with
  | nil => exact ⟨List.Pairwise.nil, by simp [made]⟩
  | cons call calls ih =>
      obtain ⟨hsorted, hbounds⟩ := ih (call.apply draft)
      have hgrown := (draft.persists_call call).size_le
      have hrest := ((call.apply draft).persists_run calls).size_le
      rw [made]
      cases hmade : call.made? draft with
      | none =>
          refine ⟨hsorted, fun id hid => ?_⟩
          exact ⟨Nat.le_trans hgrown (hbounds id hid).1, (hbounds id hid).2⟩
      | some id =>
          have hlt := lt_of_made hmade
          have hfirst := (size_of_made hmade).1
          rw [Option.toList_some, List.singleton_append, List.pairwise_cons, List.forall_mem_cons]
          refine ⟨⟨fun next hnext => Nat.lt_of_lt_of_le hlt (hbounds next hnext).1, hsorted⟩,
            ⟨Nat.le_of_eq hfirst.symm, Nat.lt_of_lt_of_le hlt hrest⟩, fun next hnext => ?_⟩
          exact ⟨Nat.le_trans hgrown (hbounds next hnext).1, (hbounds next hnext).2⟩

/-! ## Runs of calls -/

/-- The calls up to a later point are those up to an earlier one and some more. -/
theorem run_take_of_le (draft : Draft) (calls : List Call) {earlier later : Nat}
    (h : earlier ≤ later) :
    ∃ more, draft.run (calls.take later) = (draft.run (calls.take earlier)).run more := by
  have htake : calls.take earlier = (calls.take later).take earlier := by
    rw [List.take_take, Nat.min_eq_left h]
  refine ⟨(calls.take later).drop earlier, ?_⟩
  rw [htake, ← run_append, List.take_append_drop]

/-- A call of a run is made in the draft that the calls before it leave. -/
theorem run_take_succ {index : Nat} {call : Call} (h : calls[index]? = some call) :
    draft.run (calls.take (index + 1)) = call.apply (draft.run (calls.take index)) := by
  rw [List.take_add_one, h, Option.toList_some, run_append]
  rfl

/-- What a draft says of its nodes is still said of them where they persist. -/
theorem nodes_kept {before after : Draft} (h : before.dom.Persists after.dom)
    (hid : id < before.dom.size) :
    id < after.dom.size ∧
      after.dom.kind? (some id) = before.dom.kind? (some id) ∧
      after.elementName (some id) = before.elementName (some id) ∧
      ∃ old new, before.dom.payload? (some id) = some old ∧
        after.dom.payload? (some id) = some new ∧ old.Grows new := by
  obtain ⟨old, hold⟩ := Dom.exists_payload?_iff.mpr hid
  obtain ⟨new, hnew, hgrows⟩ := h id old hold
  refine ⟨Dom.exists_payload?_iff.mp ⟨new, hnew⟩, ?_, ?_, old, new, hold, hnew, hgrows⟩
  · rw [Dom.kind?_eq, Dom.kind?_eq, hold, hnew, Option.map_some, Option.map_some, hgrows.kind_eq]
  · rw [elementName, elementName, Dom.elementName?, Dom.elementName?, hold, hnew]
    cases hgrows <;> rfl

/-- Between two points of a run of calls with any arguments, every node stays, with its kind and its
name, and what it says stays or grows. Each number given back for a node that is made is the next
one, which is not the number of an absent link, and no number is given twice. -/
theorem run_persistent (draft : Draft) (calls : List Call)
    (hsize : (draft.run calls).dom.size < Notice.linkNumber none) :
    (∀ earlier later, earlier ≤ later →
      let before := draft.run (calls.take earlier)
      let after := draft.run (calls.take later)
      ∀ id < before.dom.size,
        id < after.dom.size ∧
          after.dom.kind? (some id) = before.dom.kind? (some id) ∧
          after.elementName (some id) = before.elementName (some id) ∧
          ∃ old new, before.dom.payload? (some id) = some old ∧
            after.dom.payload? (some id) = some new ∧ old.Grows new) ∧
    (∀ index call, calls[index]? = some call →
      let before := draft.run (calls.take index)
      ∀ id ∈ call.made? before, id = before.dom.size ∧ id < Notice.linkNumber none) ∧
    (draft.made calls).Pairwise (· < ·) := by
  refine ⟨?_, ?_, (draft.made_increasing calls).1⟩
  · intro earlier later hle before after id hid
    obtain ⟨more, hmore⟩ := draft.run_take_of_le calls hle
    have hpersists : before.dom.Persists after.dom := by
      simp only [after, hmore]
      exact before.persists_run more
    exact nodes_kept hpersists hid
  · intro index call hcall before id hid
    have hrest := ((draft.run (calls.take (index + 1))).persists_run
      (calls.drop (index + 1))).size_le
    rw [← run_append, List.take_append_drop, run_take_succ hcall] at hrest
    exact ⟨(size_of_made hid).1,
      Nat.lt_trans (Nat.lt_of_lt_of_le (lt_of_made hid) hrest) hsize⟩

/-- Calls that put a paragraph, with text in two parts and attributes in two parts, under the
document, then under an absent link and under a number that no node has. -/
def strayCalls : List Call :=
  [.element (.html "p") [.plain "class" "a"], .append (some 0) (.node (some 1)),
    .append (some 1) (.text "one"), .templateContents none, .append none (.node (some 1)),
    .append (some 1) (.text " two"), .append (some 9) (.node (some 1)),
    .addMissingAttributes (some 1) [.plain "class" "b", .plain "id" "c"],
    .insertBefore (some 8) (.text "lost"), .comment "end", .detach (some 7),
    .reparentChildren (some 1) (some 0)]

/-- The paragraph is the same element after all of these, and three numbers were given in turn. -/
theorem run_persistent_stray :
    (Draft.empty.run strayCalls).dom.size < Notice.linkNumber none ∧
      (Draft.empty.run strayCalls).elementName (some 1) = .html "p" ∧
      Draft.empty.made strayCalls = [1, 3, 5] ∧
      (Draft.empty.made strayCalls).Pairwise (· < ·) := by
  have hsize : (Draft.empty.run strayCalls).dom.size < Notice.linkNumber none := by decide
  obtain ⟨hnodes, -, hsorted⟩ := Draft.empty.run_persistent strayCalls hsize
  obtain ⟨-, -, hname, -⟩ := hnodes 1 12 (by decide) 1 (by decide)
  exact ⟨hsize, hname, by decide, hsorted⟩

end Draft

end HtmlTemplate
