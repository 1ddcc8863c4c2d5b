import HtmlTemplate.Proofs.Dom.Moves

/-!
# Operations on links that name no node

An `Attempt` is a call of an operation with any links. Where one of them names no node, an operation
still does what it does at the other ones. `WellFormed.attempt_missing` says when this is harmless:
when there is nothing at the other ends that could lead to the missing node or be cut off from its
place. In every other case the document is not well-formed afterwards: a node leads to one that does
not exist, or one of the links between a node, its parent and its siblings leads one way only. A
child that is appended behind such a link is lost (`append_missing_loses`).
-/

namespace HtmlTemplate

/-- A call of an operation with any links. -/
inductive Attempt where
  | append (parent child : Link)
  | insertBefore (sibling node : Link)
  | detach (link : Link)
  | appendText (parent : Link) (text : String)

namespace Attempt

/-- The document after a call. -/
def apply (dom : Dom) : Attempt → Dom
  | .append parent child => dom.append parent child
  | .insertBefore sibling node => dom.insertBefore sibling node
  | .detach link => dom.detach link
  | .appendText parent text => dom.appendText parent text

/-- The links that a call is given. -/
def links : Attempt → List Link
  | .append parent child => [parent, child]
  | .insertBefore sibling node => [sibling, node]
  | .detach link => [link]
  | .appendText parent _ => [parent]

/-- Some link that a call is given names no node. -/
def Misses (dom : Dom) (attempt : Attempt) : Prop :=
  ∃ link ∈ attempt.links, dom.get? link = none

/-- What keeps a call that is given a link to no node from doing harm: all links name none, or a
node that stands nowhere is put nowhere, or nothing is put where there is nothing to lead to it. -/
def Harmless (dom : Dom) : Attempt → Prop
  | .append parent child =>
      (dom.get? parent = none ∧ dom.get? child = none) ∨
        (parent = none ∧ dom.parent child = none) ∨ (child = none ∧ dom.firstChild parent = none)
  | .insertBefore sibling node =>
      dom.get? sibling = none ∨ (node = none ∧ dom.parent sibling = none)
  | .detach _ => True
  | .appendText parent _ => parent = none

instance (dom : Dom) : ∀ attempt : Attempt, Decidable (attempt.Harmless dom)
  | .append .. => inferInstanceAs (Decidable (_ ∨ _))
  | .insertBefore .. => inferInstanceAs (Decidable (_ ∨ _))
  | .detach _ => inferInstanceAs (Decidable True)
  | .appendText .. => inferInstanceAs (Decidable (_ = _))

end Attempt

namespace Dom

variable {dom : Dom} {parent child link sibling : Link} {above id : NodeId}

/-! ## Calls that change nothing -/

/-- Appending what is not there to what is not there changes nothing. -/
theorem append_of_missing (hparent : dom.get? parent = none) (hchild : dom.get? child = none) :
    dom.append parent child = dom := by
  have hlast : dom.lastChild parent = none := by rw [lastChild, hparent, Option.bind_none]
  simp only [append, hlast, update_of_missing hchild, update_none, update_of_missing hparent]

section

variable (h : dom.WellFormed)

include h

/-- A node without a parent has no links to siblings either. -/
theorem WellFormed.links_of_root {node : Node} (hnode : dom.get? link = some node)
    (hroot : dom.parent link = none) :
    node.parent = none ∧ node.prevSibling = none ∧ node.nextSibling = none := by
  cases link with
  | none => cases hnode
  | some id =>
      obtain ⟨hprev, hnext⟩ := h.root_alone id (lt_of_get? hnode) hroot
      rw [parent, hnode] at hroot
      rw [prevSibling, hnode] at hprev
      rw [nextSibling, hnode] at hnext
      exact ⟨hroot, hprev, hnext⟩

/-- A node that stands nowhere may be put nowhere. -/
theorem WellFormed.append_none_of_root (hroot : dom.parent child = none) :
    dom.append none child = dom := by
  refine update_eq_self fun node hnode => ?_
  obtain ⟨hparent, hprev, hnext⟩ := h.links_of_root hnode hroot
  cases node
  cases hparent
  cases hprev
  cases hnext
  rfl

/-- Nothing may be put under a node without children. -/
theorem WellFormed.append_nothing (hfirst : dom.firstChild parent = none) :
    dom.append parent none = dom := by
  have hlast : dom.lastChild parent = none := by
    cases parent with
    | none => rfl
    | some id => exact h.firstChild_eq_none_iff.mp hfirst
  simp only [append, hlast, update_none]
  refine update_eq_self fun node hnode => ?_
  rw [firstChild, hnode, Option.bind_some] at hfirst
  rw [lastChild, hnode, Option.bind_some] at hlast
  cases node
  cases hfirst
  cases hlast
  rfl

/-- Nothing may be put before a node that stands nowhere. -/
theorem WellFormed.insertBefore_nothing (hroot : dom.parent sibling = none) :
    dom.insertBefore sibling none = dom := by
  cases hplace : dom.get? sibling with
  | none => exact insertBefore_of_missing hplace none
  | some place =>
      obtain ⟨hparent, hprev, -⟩ := h.links_of_root hplace hroot
      simp only [insertBefore, hplace, hparent, hprev, update_none]
      refine update_eq_self fun node hnode => ?_
      cases Option.some.inj (hplace.symm.trans hnode)
      cases place
      cases hprev
      rfl

end

/-! ## Calls that leave a link that leads nowhere or one way only -/

/-- A missing child may be put at the end of a node only when it is no link and there are no
children. -/
theorem of_append_missing_child (habove : above < dom.size)
    (hchild : dom.get? child = none) (hafter : (dom.append (some above) child).WellFormed) :
    child = none ∧ dom.firstChild (some above) = none := by
  have hlast : (dom.append (some above) child).lastChild (some above) = child := by
    rw [lastChild_append habove, if_pos rfl]
  cases child with
  | some id =>
      have hid := hafter.target_lt (fun node => by simp [Node.links]) hlast
      rw [size_append] at hid
      exact absurd (get?_eq_none_iff.mp hchild) (Nat.not_le.mpr hid)
  | none =>
      have hfirst := hafter.firstChild_eq_none_iff.mpr hlast
      rw [firstChild_append habove, if_pos rfl, Option.or_none] at hfirst
      exact ⟨rfl, hfirst⟩

section

variable (h : dom.WellFormed)

include h

/-- A node may be put at the end of a missing one only when that is no link and the node stands
nowhere. -/
theorem WellFormed.of_append_missing_parent (hid : id < dom.size)
    (hparent : dom.get? parent = none) (hafter : (dom.append parent (some id)).WellFormed) :
    parent = none ∧ dom.parentOf id = none := by
  have hthere : (dom.append parent (some id)).parentOf id = parent := by
    rw [parentOf_append parent hid, Function.update_self]
  cases parent with
  | some above =>
      have habove := hafter.parent_lt hthere
      rw [size_append] at habove
      exact absurd (get?_eq_none_iff.mp hparent) (Nat.not_le.mpr habove)
  | none =>
      refine ⟨rfl, ?_⟩
      by_contra hattached
      obtain ⟨old, hold⟩ := Option.ne_none_iff_exists'.mp hattached
      have hprev : (dom.append none (some id)).prevSibling (some id) = none := by
        rw [prevSibling_append hid, if_pos rfl]
        rfl
      have hnext : ∀ before, dom.nextSibling (some before) = some id →
          (dom.append none (some id)).nextSibling (some before) = some id := by
        intro before hnext
        have hne : (some id : Link) ≠ some before := by
          intro heq
          exact h.nextSibling_ne_self before (hnext.trans heq)
        rw [nextSibling_append (lt_of_link hnext), if_neg (by simp [lastChild]), if_neg hne, hnext]
      have hfirst : dom.firstChild (some old) = some id →
          (dom.append none (some id)).firstChild (some old) = some id := by
        intro hfirst
        rw [firstChild_append (lt_of_link hfirst), if_neg (by simp), hfirst]
      -- What led to the node leads to it still, but the node leads back to nothing.
      obtain ⟨hsame, hstays⟩ := h.place_of_led_to hafter hold hnext hfirst
      cases hthere.symm.trans (hstays (hsame.symm.trans hprev))

/-- A missing node may be put before a sibling only when it is no link and the sibling stands
nowhere. -/
theorem WellFormed.of_insertBefore_missing {place : Node} {new : Link}
    (hplace : dom.get? (some id) = some place) (hnew : dom.get? new = none)
    (hafter : (dom.insertBefore (some id) new).WellFormed) :
    new = none ∧ dom.parentOf id = none := by
  have hprev : (dom.insertBefore (some id) new).prevSibling (some id) = new := by
    rw [prevSibling_insertBefore (lt_of_get? hplace) _ _ hplace, if_pos rfl]
  cases new with
  | some other =>
      have hother := hafter.target_lt (fun node => by simp [Node.links]) hprev
      rw [size_insertBefore] at hother
      exact absurd (get?_eq_none_iff.mp hnew) (Nat.not_le.mpr hother)
  | none =>
      refine ⟨rfl, ?_⟩
      by_contra hattached
      obtain ⟨above, habove⟩ := Option.ne_none_iff_exists'.mp hattached
      have hlt : above < dom.size := h.parent_lt habove
      have hthere : (dom.insertBefore (some id) none).parentOf id = some above := by
        rw [← habove]
        simp [parentOf, Dom.parent, get?_insertBefore dom hplace, hplace]
      have hnext : ∀ before, (dom.insertBefore (some id) none).nextSibling (some before) = some id →
          dom.nextSibling (some before) = some id := by
        intro before hnext
        have hbefore : before < dom.size := size_insertBefore dom (some id) none ▸ lt_of_link hnext
        rw [nextSibling_insertBefore hbefore _ _ hplace,
          if_neg (Option.some_ne_none before).symm] at hnext
        exact (Option.ite_none_left_eq_some.mp hnext).2
      have hfirst : (dom.insertBefore (some id) none).firstChild (some above) = some id →
          dom.firstChild (some above) = some id := by
        intro hfirst
        rw [firstChild_insertBefore hlt _ _ hplace] at hfirst
        exact (Option.ite_none_left_eq_some.mp hfirst).2
      -- What leads to the sibling now led to it before, so it is the first child as it was before.
      -- But a first child is what the operation takes away from its parent.
      obtain ⟨hsame, -⟩ := hafter.place_of_led_to h hthere hnext hfirst
      have hchild := hafter.firstChild_eq_some_iff.mpr ⟨hthere, hprev⟩
      rw [hprev, prevSibling, hplace] at hsame
      rw [parentOf, Dom.parent, hplace] at habove
      rw [firstChild_insertBefore hlt _ _ hplace, if_pos ⟨hsame, habove⟩] at hchild
      cases hchild

end

/-! ## Text put at the end of a missing node -/

/-- Text for a parent that is not there becomes a new node that names this parent. -/
theorem appendText_of_missing (hparent : dom.get? parent = none) (text : String) :
    dom.appendText parent text = (dom.create (.text text)).1.append parent (some dom.size) := by
  refine appendText_of_no_text (fun old hold => ?_) text
  rw [lastChild, hparent] at hold
  cases hold

/-- Text at the end of no node is a new node that stands nowhere. -/
theorem WellFormed.appendText_none (h : dom.WellFormed) (text : String) :
    dom.appendText none text = (dom.create (.text text)).1 := by
  rw [appendText_of_missing (get?_none dom)]
  exact (h.stores.create (.text text)).wellFormed.append_none_of_root
    (parentOf_size_create dom (.text text))

/-- The new text would stand under a node that does not exist, or under itself. -/
theorem of_appendText_missing {text : String} (hparent : dom.get? parent = none)
    (hafter : (dom.appendText parent text).WellFormed) : parent = none := by
  cases parent with
  | none => rfl
  | some above =>
      rw [appendText_of_missing hparent] at hafter
      have hnew : dom.size < (dom.create (.text text)).1.size := by simp
      have hthere : ((dom.create (.text text)).1.append (some above) (some dom.size)).parentOf
          dom.size = some above := by
        rw [parentOf_append _ hnew, Function.update_self]
      have hlt := hafter.parent_lt hthere
      rw [size_append, size_create] at hlt
      have hself : above = dom.size :=
        Nat.le_antisymm (Nat.le_of_lt_succ hlt) (get?_eq_none_iff.mp hparent)
      exact absurd (.single (hself ▸ hthere)) (hafter.acyclic dom.size)

/-! ## All calls -/

variable {attempt : Attempt}

/-- A harmless call changes nothing, unless it makes a text that stands nowhere. -/
theorem WellFormed.apply_of_harmless (h : dom.WellFormed) (hmiss : attempt.Misses dom)
    (hharmless : attempt.Harmless dom) :
    attempt.apply dom = dom ∨ ∃ text, attempt.apply dom = (dom.create (.text text)).1 := by
  cases attempt with
  | append parent child =>
      rcases hharmless with ⟨hparent, hchild⟩ | ⟨rfl, hchild⟩ | ⟨rfl, hparent⟩
      · exact .inl (append_of_missing hparent hchild)
      · exact .inl (h.append_none_of_root hchild)
      · exact .inl (h.append_nothing hparent)
  | insertBefore sibling node =>
      rcases hharmless with hsibling | ⟨rfl, hsibling⟩
      · exact .inl (insertBefore_of_missing hsibling node)
      · exact .inl (h.insertBefore_nothing hsibling)
  | detach link =>
      obtain ⟨missing, hmem, hmissing⟩ := hmiss
      rw [Attempt.links, List.mem_singleton] at hmem
      exact .inl (detach_of_missing (hmem ▸ hmissing))
  | appendText parent text =>
      cases hharmless
      exact .inr ⟨text, h.appendText_none text⟩

/-- A call that leaves a document well-formed is harmless. -/
theorem WellFormed.harmless_of_wellFormed (h : dom.WellFormed) (hmiss : attempt.Misses dom)
    (hafter : (attempt.apply dom).WellFormed) : attempt.Harmless dom := by
  obtain ⟨missing, hmem, hmissing⟩ := hmiss
  cases attempt with
  | append parent child =>
      cases hparent : dom.get? parent with
      | none =>
          cases child with
          | none => exact .inl ⟨hparent, get?_none dom⟩
          | some id =>
              by_cases hid : id < dom.size
              · exact .inr (.inl (h.of_append_missing_parent hid hparent hafter))
              · exact .inl ⟨hparent, get?_eq_none_iff.mpr (Nat.not_lt.mp hid)⟩
      | some node =>
          have hchild : dom.get? child = none := by
            rcases List.mem_pair.mp hmem with rfl | rfl
            · cases hparent.symm.trans hmissing
            · exact hmissing
          cases parent with
          | none => cases hparent
          | some above =>
              exact .inr (.inr (of_append_missing_child (lt_of_get? hparent) hchild hafter))
  | insertBefore sibling node =>
      cases hplace : dom.get? sibling with
      | none => exact .inl hplace
      | some place =>
          have hnode : dom.get? node = none := by
            rcases List.mem_pair.mp hmem with rfl | rfl
            · cases hplace.symm.trans hmissing
            · exact hmissing
          cases sibling with
          | none => cases hplace
          | some id => exact .inr (h.of_insertBefore_missing hplace hnode hafter)
  | detach link => trivial
  | appendText parent text =>
      rw [Attempt.links, List.mem_singleton] at hmem
      exact of_appendText_missing (hmem ▸ hmissing) hafter

/-- A harmless attempt leaves a document well-formed, and every list of children as it was. -/
theorem WellFormed.children_of_harmless (h : dom.WellFormed) (hmiss : attempt.Misses dom)
    (hharmless : attempt.Harmless dom) :
    (attempt.apply dom).WellFormed ∧
      ∀ id, (attempt.apply dom).children (some id) = dom.children (some id) := by
  rcases h.apply_of_harmless hmiss hharmless with hsame | ⟨text, hnew⟩
  · rw [hsame]
    exact ⟨h, fun _ => rfl⟩
  · rw [hnew]
    exact ⟨(h.stores.create (.text text)).wellFormed, h.children_create (.text text)⟩

/-- A call that is given a link to no node leaves a document well-formed just if it is harmless; and
then the children of every node are as they were, so that a child that is appended later stands
behind them. -/
theorem WellFormed.attempt_missing (h : dom.WellFormed) (hmiss : attempt.Misses dom) :
    ((attempt.apply dom).WellFormed ↔ attempt.Harmless dom) ∧
      (attempt.Harmless dom → ∀ above < dom.size,
        (attempt.apply dom).children (some above) = dom.children (some above) ∧
        ∀ child, (Step.append above child).Valid (attempt.apply dom) →
          ((attempt.apply dom).append (some above) (some child)).children (some above) =
            dom.children (some above) ++ [child]) := by
  refine ⟨⟨h.harmless_of_wellFormed hmiss, fun hharmless =>
    (h.children_of_harmless hmiss hharmless).1⟩, fun hharmless above _ => ?_⟩
  obtain ⟨hwell, hchildren⟩ := h.children_of_harmless hmiss hharmless
  refine ⟨hchildren above, fun child hvalid => ?_⟩
  rw [hwell.children_append hvalid, if_pos rfl, hchildren]

/-- In a list with one item, a comment that stands nowhere is put nowhere, and stands behind the
item once it is appended; a missing node is put at the end of the list, and text under a missing
node. -/
theorem attempt_missing_list :
    let dom := Dom.empty.run listSteps
    dom.WellFormed ∧ (Attempt.append none (some 3)).Misses dom ∧
      (Attempt.append (some 1) (some 9)).Misses dom ∧
      (Attempt.appendText (some 9) "lost").Misses dom ∧
      ((Attempt.append none (some 3)).apply dom).WellFormed ∧
      (((Attempt.append none (some 3)).apply dom).append (some 1) (some 3)).children (some 1) =
        [2, 3] ∧
      ¬ ((Attempt.append (some 1) (some 9)).apply dom).WellFormed ∧
      ¬ ((Attempt.appendText (some 9) "lost").apply dom).WellFormed := by
  intro dom
  have hwell : dom.WellFormed := wellFormed_empty.run validRun_listSteps
  have hnowhere : (Attempt.append none (some 3)).Misses dom := ⟨none, by decide, rfl⟩
  have hmissing : (Attempt.append (some 1) (some 9)).Misses dom := ⟨some 9, by decide, by decide⟩
  have htext : (Attempt.appendText (some 9) "lost").Misses dom := ⟨some 9, by decide, by decide⟩
  obtain ⟨hiff, hkept⟩ := hwell.attempt_missing hnowhere
  refine ⟨hwell, hnowhere, hmissing, htext, hiff.mpr (by decide), ?_,
    (hwell.attempt_missing hmissing).1.not.mpr (by decide),
    (hwell.attempt_missing htext).1.not.mpr (by decide)⟩
  rw [(hkept (by decide) 1 (by decide)).2 3 (Step.valid_of_check (by decide))]
  decide

/-- The document is given a child that does not exist, and the child that is appended next is not
among its children. -/
theorem append_missing_loses :
    let dom := Dom.empty.run [.create (.element (.html "p") [])]
    let after := (Attempt.append (some 0) (some 7)).apply dom
    dom.WellFormed ∧ (Attempt.append (some 0) (some 7)).Misses dom ∧ ¬ after.WellFormed ∧
      dom.children (some 0) = [] ∧ after.children (some 0) = [7] ∧
      (Step.append 0 1).Valid after ∧ (after.append (some 0) (some 1)).children (some 0) = [7] := by
  intro dom after
  have hwell : dom.WellFormed := wellFormed_empty.run (validRun_of_check (by decide))
  refine ⟨hwell, ⟨some 7, by decide, by decide⟩, fun hafter => ?_, by decide, by decide,
    Step.valid_of_check (by decide), by decide⟩
  cases (of_append_missing_child (by decide) (by decide) hafter).1

end Dom

end HtmlTemplate
