import HtmlTemplate.Proofs.Dom.Descendants
import HtmlTemplate.Proofs.Dom.Run
import Mathlib.Data.List.Forall2

/-!
# Walking a subtree without a bound

`Dom.descendants` cuts chains of siblings and levels that would not end. In a well-formed document
there are none, and nothing is cut: `Dom.Yields` is the same walk with no more than a stack, and it
ends after the same nodes (`WellFormed.yields_descendants`). The order is the recursive one of
`Dom.PreorderOf`, a node before the lists of its children. So a document read downwards, along first
children and next siblings, is the same tree as read upwards, along parents
(`WellFormed.descendants_in_preorder`).
-/

namespace HtmlTemplate.Dom

/-- What a walk with nodes on its stack gives next, and the stack that it goes on with. The children
of a node come before what else is on the stack. -/
def pull? (dom : Dom) : List NodeId → Option (NodeId × List NodeId)
  | [] => none
  | id :: stack => some (id, dom.children (some id) ++ stack)

/-- A walk with nodes on its stack gives the nodes `ids`, in that order, and ends. -/
inductive Yields (dom : Dom) : List NodeId → List NodeId → Prop where
  | done {stack : List NodeId} (hpull : dom.pull? stack = none) : Yields dom stack []
  | next {stack rest ids : List NodeId} {id : NodeId} (hpull : dom.pull? stack = some (id, rest))
      (hrest : Yields dom rest ids) : Yields dom stack (id :: ids)

/-- The nodes of a subtree in the order of recursion: the node, and then the subtree of each of its
children in turn. -/
inductive PreorderOf (dom : Dom) : NodeId → List NodeId → Prop where
  | node {id : NodeId} {below : List (List NodeId)}
      (hbelow : List.Forall₂ (PreorderOf dom) (dom.children (some id)) below) :
      PreorderOf dom id (id :: below.flatten)

variable {dom : Dom} {id root : NodeId} {stack front back ids more : List NodeId}

/-! ## Walks with a stack -/

/-- What is further down on a stack waits for what is above it. -/
theorem Yields.append (h : dom.Yields front ids) (hback : dom.Yields back more) :
    dom.Yields (front ++ back) (ids ++ more) := by
  induction h with
  | @done stack hpull =>
      cases stack with
      | nil => exact hback
      | cons id stack => cases hpull
  | @next stack rest ids id hpull _ ih =>
      cases stack with
      | nil => cases hpull
      | cons top stack =>
          cases hpull
          rw [List.append_assoc] at ih
          exact .next rfl ih

/-- From one stack there is one walk. -/
theorem Yields.unique (h : dom.Yields stack ids) (hother : dom.Yields stack more) : more = ids := by
  induction h generalizing more with
  | done hpull =>
      cases hother with
      | done => rfl
      | next hother => cases hpull.symm.trans hother
  | next hpull _ ih =>
      cases hother with
      | done hother => cases hpull.symm.trans hother
      | next hother hrest =>
          cases hpull.symm.trans hother
          rw [ih hrest]

/-- Nodes on a stack are walked through one after the other. -/
theorem yields_flatMap {lists : NodeId → List NodeId} (h : ∀ id ∈ ids, dom.Yields [id] (lists id)) :
    dom.Yields ids (ids.flatMap lists) := by
  induction ids with
  | nil => exact .done rfl
  | cons id ids ih =>
      obtain ⟨hid, hids⟩ := List.forall_mem_cons.mp h
      exact hid.append (ih hids)

/-- The walk from a node gives its descendants and ends. -/
theorem WellFormed.yields_descendants (h : dom.WellFormed) (hroot : root < dom.size) :
    dom.Yields [root] (dom.descendants (some root)) := by
  refine h.induction_on (motive := fun root =>
    dom.Yields [root] (dom.descendants (some root))) hroot fun root hroot ih => ?_
  rw [h.descendants_eq hroot]
  refine .next rfl ?_
  rw [List.append_nil]
  exact yields_flatMap ih

/-! ## The order of recursion -/

/-- Lists that are known from the entries they belong to. -/
theorem eq_map_of_forall₂ {related : NodeId → List NodeId → Prop} {lists : NodeId → List NodeId}
    {below : List (List NodeId)} (h : List.Forall₂ related ids below)
    (hlists : ∀ id ∈ ids, ∀ list, related id list → list = lists id) : below = ids.map lists := by
  induction h with
  | nil => rfl
  | @cons id list ids below hid _ ih =>
      obtain ⟨hhead, htail⟩ := List.forall_mem_cons.mp hlists
      rw [List.map_cons, ih htail, hhead list hid]

/-- The descendants of a node are the one list of its subtree in the order of recursion. -/
theorem WellFormed.preorderOf_iff (h : dom.WellFormed) (hroot : root < dom.size) :
    dom.PreorderOf root ids ↔ ids = dom.descendants (some root) := by
  refine h.induction_on (motive := fun root => ∀ ids,
    dom.PreorderOf root ids ↔ ids = dom.descendants (some root)) hroot ?_ ids
  intro root hroot ih ids
  have hlists : dom.descendants (some root) = root ::
      ((dom.children (some root)).map fun child => dom.descendants (some child)).flatten := by
    rw [h.descendants_eq hroot, List.flatMap_def]
  rw [hlists]
  constructor
  · rintro ⟨hbelow⟩
    rw [eq_map_of_forall₂ hbelow fun child hchild list => (ih child hchild list).mp]
  · rintro rfl
    refine .node (List.forall₂_map_right_iff.mpr (List.forall₂_same.mpr fun child hchild => ?_))
    exact (ih child hchild _).mpr rfl

/-! ## Downwards and upwards -/

/-- Going down from child to child leads to the nodes from which going up leads back. -/
theorem WellFormed.reaches_iff (h : dom.WellFormed) :
    Relation.ReflTransGen (fun above child => child ∈ dom.children (some above)) root id ↔
      Within dom.parentOf id root := by
  have hswap : (fun above child => child ∈ dom.children (some above)) =
      Function.swap (Under dom.parentOf) := by
    funext above child
    exact propext h.mem_children
  rw [hswap, Relation.reflTransGen_swap, Within]

/-- The text of a subtree is that of its text nodes, one after the other. -/
theorem textContent_eq_join (dom : Dom) (link : Link) :
    dom.textContent link =
      String.join ((dom.descendants link).filterMap fun id => dom.text? (some id)) := by
  have hall : ∀ (ids : List NodeId) (text : String),
      ids.foldl (fun text id => text ++ (dom.text? (some id)).getD "") text =
        text ++ String.join (ids.filterMap fun id => dom.text? (some id)) := by
    intro ids
    induction ids with
    | nil => simp
    | cons id ids ih =>
        intro text
        rw [List.foldl_cons, ih, List.filterMap_cons]
        cases dom.text? (some id) <;> simp [String.append_assoc]
  rw [textContent, hall, String.empty_append]

/-- From a node of a well-formed document, the walk with a stack ends and gives the descendants.
These are the subtree in the order of recursion, where the children of a node are met along its
first child and the next siblings; each is met once, and they are the nodes that can be reached
downwards and those from which the node can be reached upwards. Their text nodes make up the text.
What names no node has no descendants. -/
theorem WellFormed.descendants_in_preorder (h : dom.WellFormed) :
    (∀ root < dom.size,
      (∀ ids, dom.Yields [root] ids ↔ ids = dom.descendants (some root)) ∧
        (∀ ids, dom.PreorderOf root ids ↔ ids = dom.descendants (some root)) ∧
        Follows (fun child => dom.nextSibling (some child)) (dom.firstChild (some root))
          (dom.children (some root)) ∧
        (dom.descendants (some root)).Nodup ∧
        (∀ id, id ∈ dom.descendants (some root) ↔
          Relation.ReflTransGen (fun above child => child ∈ dom.children (some above)) root id) ∧
        (∀ id, id ∈ dom.descendants (some root) ↔ Within dom.parentOf id root) ∧
        dom.textContent (some root) = String.join
          ((dom.descendants (some root)).filterMap fun id => dom.text? (some id))) ∧
      ∀ link, dom.get? link = none → dom.descendants link = [] := by
  refine ⟨fun root hroot => ⟨fun ids => ⟨fun hids => ?_, ?_⟩, fun ids => h.preorderOf_iff hroot,
    (h.follows_children hroot).2.1, h.nodup_descendants root, fun id => ?_,
    fun id => h.mem_descendants hroot, textContent_eq_join dom (some root)⟩, fun link hlink => ?_⟩
  · exact (h.yields_descendants hroot).unique hids
  · rintro rfl
    exact h.yields_descendants hroot
  · rw [h.mem_descendants hroot, h.reaches_iff]
  · cases link with
    | none => rfl
    | some id => exact descendants_eq_nil (get?_eq_none_iff.mp hlink)

/-- The walk from a list with one item gives the list, the item and its text. -/
theorem descendants_in_preorder_list :
    let dom := Dom.empty.run listSteps
    dom.WellFormed ∧ 1 < dom.size ∧ dom.Yields [1] [1, 2, 4] ∧ dom.PreorderOf 1 [1, 2, 4] ∧
      dom.textContent (some 1) = "one item" ∧ dom.descendants (some 9) = [] := by
  intro dom
  have hwell : dom.WellFormed := wellFormed_empty.run validRun_listSteps
  have hroot : 1 < dom.size := by decide
  have hdescendants : dom.descendants (some 1) = [1, 2, 4] := by
    rw [descendants_eq_preorder hroot]
    decide
  obtain ⟨hall, hnone⟩ := hwell.descendants_in_preorder
  obtain ⟨hyields, hpreorder, -, -, -, -, htext⟩ := hall 1 hroot
  refine ⟨hwell, hroot, (hyields _).mpr hdescendants.symm, (hpreorder _).mpr hdescendants.symm, ?_,
    hnone (some 9) (by decide)⟩
  rw [htext, hdescendants]
  decide

end HtmlTemplate.Dom
