import HtmlTemplate.Proofs.Dom.Operations

/-!
# Runs of operations

A `Step` is one call of an operation on a document, and `Step.Valid` is what its caller promises:
the nodes exist, a node that is put somewhere stands nowhere yet, and it does not go below itself. A
valid run keeps a document well-formed (`Dom.WellFormed.run`) and does to its forest what the same
steps do to any forest (`Dom.Stores.run`).
-/

namespace HtmlTemplate

/-- A call of an operation on a document. -/
inductive Step where
  | create (payload : Payload)
  | append (parent child : NodeId)
  | insertBefore (sibling node : NodeId)
  | detach (link : Link)
  | appendText (parent : NodeId) (text : String)

namespace Step

/-- The document after a step. -/
def apply (dom : Dom) : Step → Dom
  | .create payload => (dom.create payload).1
  | .append parent child => dom.append (some parent) (some child)
  | .insertBefore sibling node => dom.insertBefore (some sibling) (some node)
  | .detach link => dom.detach link
  | .appendText parent text => dom.appendText (some parent) text

/-- The forest after a step. -/
def onForest (forest : Forest) : Step → Forest
  | .create payload => forest.create payload
  | .append parent child => forest.append parent child
  | .insertBefore sibling node => forest.insertBefore sibling node
  | .detach (some id) => forest.detach id
  | .detach none => forest
  | .appendText parent text => forest.appendText parent text

/-- What the caller of an operation promises. -/
def Valid (dom : Dom) : Step → Prop
  | .create _ => True
  | .append parent child =>
      parent < dom.size ∧ child < dom.size ∧ dom.parentOf child = none ∧
        ¬ Within dom.parentOf parent child
  | .insertBefore sibling node =>
      sibling < dom.size ∧ node < dom.size ∧ dom.parentOf sibling ≠ none ∧
        dom.parentOf node = none ∧ ¬ Below dom.parentOf sibling node
  | .detach _ => True
  | .appendText parent _ => parent < dom.size

/-- The node that a step puts under a parent. -/
def placed? : Step → Option NodeId
  | .append _ child => some child
  | .insertBefore _ node => some node
  | .create _ | .detach _ | .appendText .. => none

/-- Whether what the caller of an operation promises is seen to hold. -/
def check (dom : Dom) : Step → Bool
  | .create _ | .detach _ => true
  | .append parent child =>
      decide (parent < dom.size ∧ child < dom.size ∧ dom.parentOf child = none) &&
        clears dom.parentOf (dom.size + 1) parent child
  | .insertBefore sibling node =>
      decide (sibling < dom.size ∧ node < dom.size ∧ dom.parentOf sibling ≠ none ∧
        dom.parentOf node = none) && clears dom.parentOf (dom.size + 1) sibling node
  | .appendText parent _ => decide (parent < dom.size)

/-- A step that passes the check is valid. -/
theorem valid_of_check {dom : Dom} {step : Step} (h : step.check dom = true) :
    step.Valid dom := by
  cases step with
  | create | detach => trivial
  | append parent child =>
      obtain ⟨hnodes, hclears⟩ := Bool.and_eq_true_iff.mp h
      obtain ⟨hparent, hchild, hroot⟩ := of_decide_eq_true hnodes
      exact ⟨hparent, hchild, hroot, not_within_of_clears hclears⟩
  | insertBefore sibling node =>
      obtain ⟨hnodes, hclears⟩ := Bool.and_eq_true_iff.mp h
      obtain ⟨hsibling, hnode, hattached, hroot⟩ := of_decide_eq_true hnodes
      exact ⟨hsibling, hnode, hattached, hroot, fun hbelow =>
        not_within_of_clears hclears hbelow.to_reflTransGen⟩
  | appendText parent text =>
      rw [check, decide_eq_true_iff] at h
      exact h

end Step

namespace Dom

/-- The document after a list of steps. -/
def run (dom : Dom) (steps : List Step) : Dom :=
  steps.foldl Step.apply dom

/-- Each step of a list is valid in the document that the steps before it leave. -/
def ValidRun (dom : Dom) : List Step → Prop
  | [] => True
  | step :: rest => step.Valid dom ∧ ValidRun (step.apply dom) rest

variable {dom : Dom} {forest : Forest} {steps : List Step}

/-- The beginning of a valid run is valid. -/
theorem ValidRun.take (h : dom.ValidRun steps) (count : Nat) : dom.ValidRun (steps.take count) := by
  induction count generalizing dom steps with
  | zero => exact trivial
  | succ count ih =>
      cases steps with
      | nil => exact trivial
      | cons step rest => exact ⟨h.1, ih h.2⟩

/-- A valid step does to the forest of a document what it does to any forest. -/
theorem Stores.step {step : Step} (h : dom.Stores forest) (hvalid : step.Valid dom) :
    (step.apply dom).Stores (step.onForest forest) := by
  cases step with
  | create payload => exact h.create payload
  | append parent child =>
      obtain ⟨hparent, hchild, hroot, houtside⟩ := hvalid
      rw [h.size_eq] at hparent hchild
      rw [h.parentOf_eq] at hroot houtside
      exact h.append hroot hchild hparent houtside
  | insertBefore sibling node =>
      obtain ⟨-, hnode, hattached, hroot, houtside⟩ := hvalid
      rw [h.size_eq] at hnode
      rw [h.parentOf_eq] at hattached hroot houtside
      obtain ⟨above, habove⟩ := Option.ne_none_iff_exists'.mp hattached
      exact h.insertBefore habove hroot hnode houtside
  | detach link =>
      cases link with
      | none => exact h
      | some id => exact h.detach id
  | appendText parent text =>
      rw [Step.Valid, h.size_eq] at hvalid
      exact h.appendText hvalid text

/-- So does a valid run. -/
theorem Stores.run (h : dom.Stores forest) (hvalid : dom.ValidRun steps) :
    (dom.run steps).Stores (steps.foldl Step.onForest forest) := by
  induction steps generalizing dom forest with
  | nil => exact h
  | cons step rest ih => exact ih (h.step hvalid.1) hvalid.2

/-- A valid run keeps a document well-formed. -/
theorem WellFormed.run (h : dom.WellFormed) (hvalid : dom.ValidRun steps) :
    (dom.run steps).WellFormed :=
  (h.stores.run hvalid).wellFormed

/-! ## New nodes -/

/-- A new node is an ancestor of none. -/
theorem WellFormed.not_within_size (h : dom.WellFormed) {id : NodeId} (hid : id < dom.size) :
    ¬ Within dom.parentOf id dom.size := by
  intro hwithin
  rw [← size_forest] at hid hwithin
  exact Nat.lt_irrefl _ (h.proper.within_lt hid hwithin)

/-- A new node may be put at the end of any node. -/
theorem WellFormed.valid_append_new (h : dom.WellFormed) {above : NodeId}
    (habove : above < dom.size)
    (payload : Payload) : (Step.append above dom.size).Valid (dom.create payload).1 := by
  have hparent := parentOf_create dom payload
  have hsize := size_create dom payload
  exact ⟨hsize ▸ Nat.lt_succ_of_lt habove, hsize ▸ Nat.lt_succ_self _,
    parentOf_size_create dom payload, hparent ▸ h.not_within_size habove⟩

/-- It may be put before any node that stands somewhere. -/
theorem WellFormed.valid_insertBefore_new (h : dom.WellFormed) {sibling : NodeId}
    (hattached : dom.parentOf sibling ≠ none) (payload : Payload) :
    (Step.insertBefore sibling dom.size).Valid (dom.create payload).1 := by
  obtain ⟨above, habove⟩ := Option.ne_none_iff_exists'.mp hattached
  have hsibling := lt_of_under habove
  have hparent := parentOf_create dom payload
  have hsize := size_create dom payload
  have houtside : ¬ Below dom.parentOf sibling dom.size := fun hbelow =>
    h.not_within_size hsibling hbelow.to_reflTransGen
  exact ⟨hsize ▸ Nat.lt_succ_of_lt hsibling, hsize ▸ Nat.lt_succ_self _, hparent ▸ hattached,
    parentOf_size_create dom payload, hparent ▸ houtside⟩

/-! ## Roots -/

/-- No step takes a node away. -/
theorem size_le_step (dom : Dom) (step : Step) : dom.size ≤ (step.apply dom).size := by
  cases step with
  | create payload => simp [Step.apply]
  | append | insertBefore | detach => simp [Step.apply]
  | appendText parent text =>
      rw [Step.apply]
      by_cases htext : ∃ old, dom.payload? (dom.lastChild (some parent)) = some (.text old)
      · obtain ⟨old, hold⟩ := htext
        simp [appendText_of_text hold]
      · simp [appendText_of_no_text (not_exists.mp htext)]

/-- A node without a parent gets none by a step that puts another node somewhere. -/
theorem parentOf_step {step : Step} {id : NodeId} (hvalid : step.Valid dom) (hid : id < dom.size)
    (hroot : dom.parentOf id = none) (hplaced : step.placed? ≠ some id) :
    (step.apply dom).parentOf id = none := by
  cases step with
  | create payload => exact (congrFun (parentOf_create dom payload) id).trans hroot
  | append parent child =>
      have hne : id ≠ child := fun heq => hplaced (congrArg some heq.symm)
      rw [Step.apply, parentOf_append _ hvalid.2.1, Function.update_of_ne hne]
      exact hroot
  | insertBefore sibling node =>
      obtain ⟨-, hnode, hattached, -⟩ := hvalid
      obtain ⟨above, habove⟩ := Option.ne_none_iff_exists'.mp hattached
      have hne : id ≠ node := fun heq => hplaced (congrArg some heq.symm)
      rw [Step.apply, parentOf_insertBefore habove hnode, Function.update_of_ne hne]
      exact hroot
  | detach link =>
      cases link with
      | none => exact hroot
      | some other => rw [Step.apply, parentOf_detach, Function.update_apply, hroot, ite_self]
  | appendText parent text =>
      rw [Step.apply]
      by_cases htext : ∃ old, dom.payload? (dom.lastChild (some parent)) = some (.text old)
      · obtain ⟨old, hold⟩ := htext
        rw [appendText_of_text hold]
        refine (congrFun (parentOf_update ?_) id).trans hroot
        exact fun _ => rfl
      · rw [appendText_of_no_text (not_exists.mp htext), parentOf_append _ (by simp),
          Function.update_of_ne (Nat.ne_of_lt hid), parentOf_create]
        exact hroot

/-- Nor does it by a run of such steps. -/
theorem parentOf_run {id : NodeId} (hvalid : dom.ValidRun steps) (hid : id < dom.size)
    (hroot : dom.parentOf id = none) (hplaced : ∀ step ∈ steps, step.placed? ≠ some id) :
    id < (dom.run steps).size ∧ (dom.run steps).parentOf id = none := by
  induction steps generalizing dom with
  | nil => exact ⟨hid, hroot⟩
  | cons step rest ih =>
      have hstep := parentOf_step hvalid.1 hid hroot (hplaced step List.mem_cons_self)
      exact ih hvalid.2 (Nat.lt_of_lt_of_le hid (dom.size_le_step step)) hstep
        fun other hother => hplaced other (List.mem_cons_of_mem _ hother)

/-! ## Moving nodes -/

/-- The steps that move nodes, one after the other, to the end of `above`. -/
def moveSteps (above : NodeId) (ids : List NodeId) : List Step :=
  ids.flatMap fun id => [.detach (some id), .append above id]

/-- A run of moves takes out and appends one node after the other. -/
theorem run_moveSteps (dom : Dom) (above : NodeId) (ids : List NodeId) :
    dom.run (moveSteps above ids) =
      ids.foldl (fun dom id => (dom.detach (some id)).append (some above) (some id)) dom := by
  rw [run, moveSteps, List.foldl_flatMap]
  rfl

/-- Moves place only nodes of the list. -/
theorem placed_of_mem_moveSteps {above id : NodeId} {ids : List NodeId} {step : Step}
    (hstep : step ∈ moveSteps above ids) (hplaced : step.placed? = some id) : id ∈ ids := by
  obtain ⟨moved, hmoved, hstep⟩ := List.mem_flatMap.mp hstep
  rw [List.mem_cons, List.mem_singleton] at hstep
  rcases hstep with rfl | rfl
  · cases hplaced
  · cases hplaced
    exact hmoved

/-- Nodes can be moved to the end of one that is not within any of them. -/
theorem validRun_moveSteps {above : NodeId} {ids : List NodeId} (habove : above < dom.size)
    (hids : ∀ id ∈ ids, id < dom.size ∧ ¬ Within dom.parentOf above id) :
    dom.ValidRun (moveSteps above ids) := by
  induction ids generalizing dom with
  | nil => exact trivial
  | cons id ids ih =>
      obtain ⟨hid, houtside⟩ := hids id List.mem_cons_self
      have hdetached : ¬ Within (dom.detach (some id)).parentOf above id := by
        rw [parentOf_detach]
        exact fun hwithin => houtside hwithin.of_release
      have hroot : (dom.detach (some id)).parentOf id = none := by
        rw [parentOf_detach, Function.update_self]
      have hsize : (dom.detach (some id)).size = dom.size := size_detach _ _
      have hvalid : (Step.append above id).Valid (dom.detach (some id)) :=
        ⟨hsize ▸ habove, hsize ▸ hid, hroot, hdetached⟩
      have hsizeAfter : ((dom.detach (some id)).append (some above) (some id)).size = dom.size :=
        (size_append _ _ _).trans hsize
      refine ⟨trivial, hvalid, ih (hsizeAfter ▸ habove) fun other hother => ?_⟩
      -- A move gives `above` no new ancestors, so the rest can still be put under it.
      obtain ⟨hlt, hout⟩ := hids other (List.mem_cons_of_mem _ hother)
      refine ⟨hsizeAfter ▸ hlt, fun hwithin => hout ?_⟩
      rw [Step.apply, Step.apply, parentOf_append _ (hsize ▸ hid)] at hwithin
      have hwithin := hwithin.of_attach hdetached
      rw [parentOf_detach] at hwithin
      exact hwithin.of_release

/-! ## Checking runs -/

/-- Whether each step of a list is seen to be valid. -/
def checkRun (dom : Dom) : List Step → Bool
  | [] => true
  | step :: rest => step.check dom && checkRun (step.apply dom) rest

/-- A run that passes the check is valid. -/
theorem validRun_of_check (h : dom.checkRun steps = true) : dom.ValidRun steps := by
  induction steps generalizing dom with
  | nil => trivial
  | cons step rest ih =>
      obtain ⟨hstep, hrest⟩ := Bool.and_eq_true_iff.mp h
      exact ⟨Step.valid_of_check hstep, ih hrest⟩

/-! ## Documents that are reached -/

/-- A document and nothing else is well-formed. -/
theorem wellFormed_empty : Dom.empty.WellFormed := by
  have hstores : Dom.empty.Stores
      { payloads := [.document], parent := fun _ => none, children := fun _ => [] } := by
    refine ⟨⟨?_, ?_, ?_, ?_, ?_⟩, ?_⟩
    · exact fun _ => List.nodup_nil
    · simp
    · simp
    · simp
    · intro id hbelow
      obtain ⟨above, habove, -⟩ := Relation.TransGen.head'_iff.mp hbelow
      cases habove
    · intro id
      cases id with
      | zero => rfl
      | succ id => rfl
  exact hstores.wellFormed

/-- The steps that make a list with one item, with a comment put before the item and taken out
again, and a text that comes in two parts. -/
def listSteps : List Step :=
  [.create (.element (.html "ul") []), .append 0 1, .create (.element (.html "li") []),
    .append 1 2, .create (.comment "first"), .insertBefore 2 3, .appendText 2 "one",
    .appendText 2 " item", .detach (some 3), .detach (some 9)]

/-- The list is built by valid steps. -/
theorem validRun_listSteps : Dom.empty.ValidRun listSteps :=
  validRun_of_check (by decide)

/-- Every document that a valid run from the empty document reaches is well-formed. -/
theorem reached_wellFormed (h : Dom.empty.ValidRun steps) (count : Nat) :
    (Dom.empty.run (steps.take count)).WellFormed :=
  wellFormed_empty.run (h.take count)

/-- The list with one item is well-formed while the comment stands in it. -/
theorem reached_wellFormed_list :
    Dom.empty.ValidRun listSteps ∧ (Dom.empty.run (listSteps.take 8)).WellFormed :=
  ⟨validRun_listSteps, reached_wellFormed validRun_listSteps 8⟩

/-- Along a valid run from a well-formed document, payloads, parents and lists of children change by
the list operations and by nothing else. -/
theorem forest_run (h : dom.WellFormed) (hvalid : dom.ValidRun steps) (count : Nat) :
    (dom.run (steps.take count)).forest = (steps.take count).foldl Step.onForest dom.forest :=
  (h.stores.run (hvalid.take count)).forest_eq

/-- The steps of the list with one item, on linked nodes and on lists of children. -/
theorem forest_run_list :
    Dom.empty.WellFormed ∧ Dom.empty.ValidRun listSteps ∧
      (Dom.empty.run (listSteps.take 10)).forest =
        (listSteps.take 10).foldl Step.onForest Dom.empty.forest :=
  ⟨wellFormed_empty, validRun_listSteps, forest_run wellFormed_empty validRun_listSteps 10⟩

end Dom

end HtmlTemplate
