import HtmlTemplate.Dom.Node
import Mathlib.Data.List.Nodup
import Mathlib.Logic.Function.Basic
import Mathlib.Logic.Relation

/-!
# Ancestors

What can be said of ancestors when all that is known is which node is the parent of which. `Below`
is the proper descendant, `Within` the descendant that may be the node itself, and `Acyclic` says
that no node is below itself. Two changes keep parents acyclic: taking a node off its parent, and
putting a node that has no parent under one that is not within it.

On a concrete document the ancestors of a node are computed by walking up from it (`lineage?`).
-/

namespace HtmlTemplate

/-- `id` stands directly under `above`. -/
def Under (parent : NodeId → Link) (id above : NodeId) : Prop :=
  parent id = some above

/-- `id` is a proper descendant of `ancestor`. -/
def Below (parent : NodeId → Link) : NodeId → NodeId → Prop :=
  Relation.TransGen (Under parent)

/-- `id` is `ancestor` or a descendant of it. -/
def Within (parent : NodeId → Link) : NodeId → NodeId → Prop :=
  Relation.ReflTransGen (Under parent)

/-- No node is its own descendant. -/
def Acyclic (parent : NodeId → Link) : Prop :=
  ∀ id, ¬ Below parent id id

variable {parent : NodeId → Link} {id child above ancestor : NodeId}

/-! ## Chains of ancestors -/

/-- A node has one parent, so what is below an ancestor is within or above every other. -/
theorem within_total {first second : NodeId} (hfirst : Within parent id first)
    (hsecond : Within parent id second) :
    Within parent first second ∨ Within parent second first :=
  Relation.ReflTransGen.total_of_right_unique
    (fun _ _ _ hleft hright => Option.some.inj (hleft.symm.trans hright)) hfirst hsecond

/-- The proper ancestors of a child are its parent and the parent's own. -/
theorem below_iff_of_under (h : parent child = some above) :
    Below parent child ancestor ↔ Within parent above ancestor := by
  constructor
  · intro hbelow
    obtain ⟨middle, hmiddle, hrest⟩ := Relation.TransGen.head'_iff.mp hbelow
    cases Option.some.inj (h.symm.trans hmiddle)
    exact hrest
  · exact fun hwithin => Relation.TransGen.head' h hwithin

/-- A node without a parent has no ancestor but itself. -/
theorem within_iff_of_root (h : parent id = none) : Within parent id ancestor ↔ ancestor = id := by
  constructor
  · intro hwithin
    rcases Relation.ReflTransGen.cases_head hwithin with heq | ⟨middle, hmiddle, -⟩
    · exact heq.symm
    · exact absurd (h.symm.trans hmiddle) (by simp)
  · rintro rfl
    exact Relation.ReflTransGen.refl

/-- The ancestors of a child are itself and those of its parent. -/
theorem within_iff_of_under (h : parent child = some above) :
    Within parent child ancestor ↔ ancestor = child ∨ Within parent above ancestor := by
  rw [Within, Relation.reflTransGen_iff_eq_or_transGen]
  exact or_congr Iff.rfl (below_iff_of_under h)

/-- Two nodes within each other are the same. -/
theorem Acyclic.within_antisymm (hacyclic : Acyclic parent) (h : Within parent id ancestor)
    (hback : Within parent ancestor id) : id = ancestor := by
  rcases Relation.reflTransGen_iff_eq_or_transGen.mp h with heq | hbelow
  · exact heq.symm
  · exact absurd (hbelow.trans_left hback) (hacyclic id)

/-! ## Walking up -/

/-- The way up from a node to one without a parent, in at most `limit` nodes. -/
def lineage? (parent : NodeId → Link) : Nat → NodeId → Option (List NodeId)
  | 0, _ => none
  | limit + 1, id =>
    match parent id with
    | none => some [id]
    | some above => (lineage? parent limit above).map (id :: ·)

/-- The ancestors of a node are those on its way up. -/
theorem within_iff_of_lineage? {limit : Nat} {ids : List NodeId}
    (h : lineage? parent limit id = some ids) : Within parent id ancestor ↔ ancestor ∈ ids := by
  induction limit generalizing id ids with
  | zero => cases h
  | succ limit ih =>
      rw [lineage?] at h
      cases hparent : parent id with
      | none =>
          rw [hparent, Option.some.injEq] at h
          rw [within_iff_of_root hparent, ← h, List.mem_singleton]
      | some above =>
          rw [hparent, Option.map_eq_some_iff] at h
          obtain ⟨rest, hrest, rfl⟩ := h
          rw [within_iff_of_under hparent, ih hrest, List.mem_cons]

/-- Whether the way up from a node ends within `limit` nodes and does not meet `ancestor`. -/
def clears (parent : NodeId → Link) (limit : Nat) (id ancestor : NodeId) : Bool :=
  (lineage? parent limit id).any fun ids => ancestor ∉ ids

/-- A node is not within another that was not met among its ancestors. -/
theorem not_within_of_clears {limit : Nat} (h : clears parent limit id ancestor = true) :
    ¬ Within parent id ancestor := by
  obtain ⟨ids, hids, hmem⟩ := Option.any_eq_true _ _ |>.mp h
  rw [within_iff_of_lineage? hids]
  exact of_decide_eq_true hmem

/-! ## Changes that keep parents acyclic -/

/-- Where there are fewer parents there are no more cycles. -/
theorem Acyclic.mono {other : NodeId → Link} (hacyclic : Acyclic parent)
    (h : ∀ id above, other id = some above → parent id = some above) : Acyclic other :=
  fun id hbelow => hacyclic id (Relation.TransGen.mono h id id hbelow)

/-- Taking a node off its parent makes no cycle. -/
theorem Acyclic.release (hacyclic : Acyclic parent) (id : NodeId) :
    Acyclic (Function.update parent id none) := by
  refine hacyclic.mono fun other above h => ?_
  rw [Function.update_apply] at h
  split at h
  · cases h
  · exact h

/-- A new chain of ancestors is an old one, or it leads through the node that was put under a
parent: up to this node, and then from the new parent on. -/
theorem Below.of_attach (hbelow : Below (Function.update parent child (some above)) id ancestor)
    (houtside : ¬ Within parent above child) :
    Below parent id ancestor ∨ (Within parent id child ∧ Within parent above ancestor) := by
  induction hbelow with
  | @single ancestor hstep =>
      by_cases hid : id = child
      · subst hid
        rw [Under, Function.update_self] at hstep
        cases hstep
        exact Or.inr ⟨.refl, .refl⟩
      · rw [Under, Function.update_of_ne hid] at hstep
        exact Or.inl (.single hstep)
  | @tail middle ancestor _ hstep ih =>
      by_cases hmiddle : middle = child
      · subst hmiddle
        rw [Under, Function.update_self] at hstep
        cases hstep
        rcases ih with hold | ⟨_, hcycle⟩
        · exact Or.inr ⟨hold.to_reflTransGen, .refl⟩
        · exact absurd hcycle houtside
      · rw [Under, Function.update_of_ne hmiddle] at hstep
        exact ih.imp (fun hold => hold.tail hstep) (fun h => ⟨h.1, h.2.tail hstep⟩)

/-- A chain of ancestors without the edge above a node was there with it. -/
theorem Within.of_release (h : Within (Function.update parent child none) id ancestor) :
    Within parent id ancestor := by
  refine Relation.ReflTransGen.mono (fun other above habove => ?_) id ancestor h
  rw [Under, Function.update_apply] at habove
  split at habove
  · cases habove
  · exact habove

/-- A node has the same ancestors where all of them have the same parents. -/
theorem Within.of_same_parents {other : NodeId → Link} (h : Within other id ancestor)
    (hsame : ∀ above, Within parent id above → other above = parent above) :
    Within parent id ancestor := by
  induction h with
  | refl => exact .refl
  | tail _ hstep ih => exact ih.tail ((hsame _ ih).symm.trans hstep)

/-- A node gets no new ancestors when a node that it is not within is put under it. -/
theorem Within.of_attach (h : Within (Function.update parent child (some above)) above ancestor)
    (houtside : ¬ Within parent above child) : Within parent above ancestor := by
  rcases Relation.reflTransGen_iff_eq_or_transGen.mp h with rfl | hbelow
  · exact .refl
  · rcases Below.of_attach hbelow houtside with hold | ⟨-, hwithin⟩
    · exact hold.to_reflTransGen
    · exact hwithin

/-- Putting a node under one that is not within it makes no cycle. -/
theorem Acyclic.attach (hacyclic : Acyclic parent) (houtside : ¬ Within parent above child) :
    Acyclic (Function.update parent child (some above)) := by
  intro id hbelow
  rcases hbelow.of_attach houtside with hold | ⟨hdown, hup⟩
  · exact hacyclic id hold
  · exact houtside (hup.trans hdown)

end HtmlTemplate
