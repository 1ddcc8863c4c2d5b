import HtmlTemplate.Dom.Node
import Mathlib.Data.List.Nodup

/-!
# Siblings as a list

The children of a node are a list without repetition, and the two sibling links of a child are its
neighbours in that list: `Siblings.next?` and `Siblings.prev?`. The lemmas here say what adding,
inserting and taking out one entry does to the neighbours of every other. `Follows` is the bridge to
linked nodes: a chain of links meets a list exactly when each link is the neighbour in that list.
-/

namespace HtmlTemplate

namespace Siblings

/-- The entry right behind `id`. -/
def next? (id : NodeId) : List NodeId → Link
  | [] => none
  | head :: tail => if head = id then tail.head? else next? id tail

/-- The entry right before `id`. -/
def prev? (id : NodeId) (ids : List NodeId) : Link :=
  next? id ids.reverse

/-- Puts `id` right before `sibling`. -/
def insertBefore (sibling id : NodeId) : List NodeId → List NodeId
  | [] => []
  | head :: tail =>
      if head = sibling then id :: head :: tail else head :: insertBefore sibling id tail

variable {ids front back : List NodeId} {id sibling : NodeId}

/-! ## Neighbours in a concatenation -/

/-- What is not in a list has nothing behind it. -/
theorem next?_of_not_mem (h : id ∉ ids) : next? id ids = none := by
  induction ids with
  | nil => rfl
  | cons head tail ih =>
      rw [List.mem_cons, not_or] at h
      rw [next?, if_neg (Ne.symm h.1), ih h.2]

/-- What stands behind an entry is an entry. -/
theorem mem_of_next? {behind : NodeId} (h : next? id ids = some behind) : behind ∈ ids := by
  induction ids with
  | nil => cases h
  | cons head tail ih =>
      rw [next?] at h
      split at h
      · exact List.mem_cons_of_mem _ (List.mem_of_mem_head? h)
      · exact List.mem_cons_of_mem _ (ih h)

/-- What stands before an entry is an entry. -/
theorem mem_of_prev? {before : NodeId} (h : prev? id ids = some before) : before ∈ ids :=
  List.mem_reverse.mp (mem_of_next? h)

/-- The entry behind `id` is looked for in the front part first, and is the first of the back part
when `id` ends the front part. -/
theorem next?_append (id : NodeId) (front back : List NodeId) :
    next? id (front ++ back) =
      if id ∈ front then (next? id front).or back.head? else next? id back := by
  induction front with
  | nil => simp
  | cons head tail ih =>
      by_cases hhead : head = id
      · simp [next?, hhead, List.head?_append]
      · simp [next?, hhead, Ne.symm hhead, ih]

/-- Of the entries of a list, the last is the one with nothing behind it. -/
theorem next?_eq_none_iff (hnodup : ids.Nodup) (hmem : id ∈ ids) :
    next? id ids = none ↔ ids.getLast? = some id := by
  induction ids with
  | nil => simp at hmem
  | cons head tail ih =>
      obtain ⟨hhead, htail⟩ := List.nodup_cons.mp hnodup
      cases tail with
      | nil => simpa [next?, eq_comm] using hmem
      | cons second rest =>
          by_cases he : head = id
          · subst he
            have hlast : (second :: rest).getLast? ≠ some head :=
              fun h => hhead (List.mem_of_getLast? h)
            simpa [next?, List.getLast?_cons_cons] using hlast
          · have hrest : id ∈ second :: rest := (List.mem_cons.mp hmem).resolve_left (Ne.symm he)
            rw [next?, if_neg he, List.getLast?_cons_cons, ih htail hrest]

/-- In a list without repetition, the entry behind the end of the front part starts the back part,
and every other neighbour is one of the two parts' own. -/
theorem next?_append_of_nodup (hnodup : front.Nodup) (id : NodeId) (back : List NodeId) :
    next? id (front ++ back) =
      if front.getLast? = some id then back.head?
      else if id ∈ front then next? id front else next? id back := by
  rw [next?_append]
  by_cases hmem : id ∈ front
  · by_cases hlast : front.getLast? = some id
    · simp [hmem, hlast, (next?_eq_none_iff hnodup hmem).mpr hlast]
    · obtain ⟨behind, hbehind⟩ := Option.ne_none_iff_exists'.mp
        (fun h => hlast ((next?_eq_none_iff hnodup hmem).mp h))
      simp [hmem, hlast, hbehind]
  · have hlast : front.getLast? ≠ some id := fun h => hmem (List.mem_of_getLast? h)
    simp [hmem, hlast]

/-- Where two lists meet, the last entry of the front stands before the first entry of the back. -/
theorem prev?_append_of_nodup (hnodup : back.Nodup) (id : NodeId) (front : List NodeId) :
    prev? id (front ++ back) =
      if back.head? = some id then front.getLast?
      else if id ∈ back then prev? id back else prev? id front := by
  rw [prev?, List.reverse_append, next?_append_of_nodup (List.nodup_reverse.mpr hnodup)]
  simp [prev?]

/-- What is behind an entry in the middle is the start of the back part. -/
theorem next?_middle (h : id ∉ front) : next? id (front ++ id :: back) = back.head? := by
  simp [next?_append, h, next?]

/-- What is before an entry in the middle is the end of the front part. -/
theorem prev?_middle (h : id ∉ back) : prev? id (front ++ id :: back) = front.getLast? := by
  rw [prev?, List.reverse_append, List.reverse_cons, List.append_assoc, List.singleton_append,
    next?_middle (by simpa using h), List.head?_reverse]

/-- A list without repetition around one of its entries. -/
theorem exists_split (hnodup : ids.Nodup) (hmem : id ∈ ids) :
    ∃ front back, ids = front ++ id :: back ∧ id ∉ front ∧ id ∉ back ∧ front.Nodup ∧ back.Nodup ∧
      ids.erase id = front ++ back := by
  obtain ⟨front, back, hfront, rfl, herase⟩ := List.exists_erase_eq hmem
  obtain ⟨hfrontNodup, hbackNodup, -⟩ := List.nodup_append.mp hnodup
  obtain ⟨hback, hbackNodup⟩ := List.nodup_cons.mp hbackNodup
  exact ⟨front, back, rfl, hfront, hback, hfrontNodup, hbackNodup, herase⟩

/-- Nothing is behind itself. -/
theorem next?_ne_self (hnodup : ids.Nodup) (id : NodeId) : next? id ids ≠ some id := by
  intro hnext
  by_cases hmem : id ∈ ids
  · obtain ⟨front, back, rfl, hfront, hback, -, -, -⟩ := exists_split hnodup hmem
    rw [next?_middle hfront] at hnext
    exact hback (List.mem_of_mem_head? hnext)
  · rw [next?_of_not_mem hmem] at hnext
    cases hnext

/-- Behind and before are the two directions of one relation. -/
theorem next?_eq_some_iff (hnodup : ids.Nodup) {behind : NodeId} :
    next? id ids = some behind ↔ prev? behind ids = some id := by
  -- Whichever of the two is in the list is in its middle, and the other is right beside it.
  have hforth : ∀ {ids : List NodeId} {id behind : NodeId}, ids.Nodup →
      next? id ids = some behind → prev? behind ids = some id := by
    intro ids id behind hnodup hnext
    have hmem : id ∈ ids := by
      by_contra hmem
      rw [next?_of_not_mem hmem] at hnext
      cases hnext
    obtain ⟨front, back, rfl, hfront⟩ := List.eq_append_cons_of_mem hmem
    rw [next?_middle hfront, List.head?_eq_some_iff] at hnext
    obtain ⟨rest, rfl⟩ := hnext
    have hbehind : behind ∉ rest := (List.nodup_cons.mp hnodup.of_append_right.of_cons).1
    rw [List.append_cons, prev?_middle hbehind, List.getLast?_concat]
  refine ⟨hforth hnodup, fun hprev => ?_⟩
  have hback := hforth (List.nodup_reverse.mpr hnodup) hprev
  rwa [prev?, List.reverse_reverse] at hback

/-- Of the entries of a list, the first is the one with nothing before it. -/
theorem prev?_eq_none_iff (hnodup : ids.Nodup) (hmem : id ∈ ids) :
    prev? id ids = none ↔ ids.head? = some id := by
  rw [prev?, next?_eq_none_iff (List.nodup_reverse.mpr hnodup) (List.mem_reverse.mpr hmem),
    List.getLast?_reverse]

/-! ## Adding at the end -/

/-- An entry added at the end stands behind the last one so far. -/
theorem next?_concat (hnodup : ids.Nodup) (last id : NodeId) :
    next? id (ids ++ [last]) = if ids.getLast? = some id then some last else next? id ids := by
  rw [next?_append_of_nodup hnodup]
  by_cases hmem : id ∈ ids
  · simp [hmem]
  · simp [hmem, next?, next?_of_not_mem hmem]

/-- The last one so far stands before an entry added at the end. -/
theorem prev?_concat (ids : List NodeId) (last id : NodeId) :
    prev? id (ids ++ [last]) = if id = last then ids.getLast? else prev? id ids := by
  rw [prev?_append_of_nodup (List.nodup_singleton last)]
  by_cases hid : id = last
  · simp [hid]
  · simp [hid, Ne.symm hid]

/-! ## Inserting before a sibling -/

/-- The new entry stands right before the sibling. -/
theorem insertBefore_middle (h : sibling ∉ front) :
    insertBefore sibling id (front ++ sibling :: back) = front ++ id :: sibling :: back := by
  induction front with
  | nil => simp [insertBefore]
  | cons head tail ih =>
      rw [List.mem_cons, not_or] at h
      simp [insertBefore, Ne.symm h.1, ih h.2]

/-- An insertion adds one entry. -/
theorem mem_insertBefore (hmem : sibling ∈ ids) (other : NodeId) :
    other ∈ insertBefore sibling id ids ↔ other = id ∨ other ∈ ids := by
  obtain ⟨front, back, rfl, hfront⟩ := List.eq_append_cons_of_mem hmem
  rw [insertBefore_middle hfront]
  simp only [List.mem_append, List.mem_cons]
  tauto

/-- An entry that is inserted once is there once. -/
theorem nodup_insertBefore (hnodup : ids.Nodup) (hmem : sibling ∈ ids) (hnew : id ∉ ids) :
    (insertBefore sibling id ids).Nodup := by
  obtain ⟨front, back, rfl, hfront⟩ := List.eq_append_cons_of_mem hmem
  rw [insertBefore_middle hfront, List.nodup_middle, List.nodup_cons]
  exact ⟨hnew, hnodup⟩

/-- The new entry is behind what stood before the sibling, and the sibling is behind the new
entry. -/
theorem next?_insertBefore (hnodup : ids.Nodup) (hmem : sibling ∈ ids) (hnew : id ∉ ids)
    (other : NodeId) :
    next? other (insertBefore sibling id ids) =
      if prev? sibling ids = some other then some id
      else if other = id then some sibling else next? other ids := by
  obtain ⟨front, back, rfl, hfront, hback, hfrontNodup, -, -⟩ := exists_split hnodup hmem
  rw [insertBefore_middle hfront, prev?_middle hback, next?_append_of_nodup hfrontNodup,
    next?_append_of_nodup hfrontNodup]
  by_cases hid : other = id
  · subst hid
    have hother : other ∉ front := fun h => hnew (List.mem_append_left _ h)
    simp [hother, next?]
  · by_cases hlast : front.getLast? = some other
    · simp [hlast]
    · simp [hlast, hid, next?, Ne.symm hid]

/-- The new entry is before the sibling, and what stood before the sibling is before the new
entry. -/
theorem prev?_insertBefore (hnodup : ids.Nodup) (hmem : sibling ∈ ids) (hnew : id ∉ ids)
    (other : NodeId) :
    prev? other (insertBefore sibling id ids) =
      if other = sibling then some id
      else if other = id then prev? sibling ids else prev? other ids := by
  obtain ⟨front, back, rfl, hfront, hback, -, hbackNodup, -⟩ := exists_split hnodup hmem
  have hne : sibling ≠ id := fun h => hnew (by simp [h])
  have hsplit : front ++ id :: sibling :: back = (front ++ [id]) ++ sibling :: back := by simp
  rw [insertBefore_middle hfront, hsplit,
    prev?_append_of_nodup (List.nodup_cons.mpr ⟨hback, hbackNodup⟩), prev?_middle hback,
    prev?_append_of_nodup (List.nodup_cons.mpr ⟨hback, hbackNodup⟩), prev?_concat]
  by_cases hsibling : other = sibling
  · simp [hsibling]
  · by_cases hid : other = id
    · subst hid
      have hother : other ∉ back := fun h => hnew (by simp [h])
      simp [hsibling, Ne.symm hsibling, hother]
    · simp [hsibling, Ne.symm hsibling, hid]

/-- The new entry is the first one if its sibling was. -/
theorem head?_insertBefore (hnodup : ids.Nodup) (hmem : sibling ∈ ids) :
    (insertBefore sibling id ids).head? =
      if prev? sibling ids = none then some id else ids.head? := by
  obtain ⟨front, back, rfl, hfront, hback, -, -, -⟩ := exists_split hnodup hmem
  rw [insertBefore_middle hfront, prev?_middle hback]
  cases front <;> simp

/-- Nothing is inserted behind the last entry. -/
theorem getLast?_insertBefore (hmem : sibling ∈ ids) :
    (insertBefore sibling id ids).getLast? = ids.getLast? := by
  obtain ⟨front, back, rfl, hfront⟩ := List.eq_append_cons_of_mem hmem
  rw [insertBefore_middle hfront]
  simp [List.getLast?_append, List.getLast?_cons]

/-! ## Taking out an entry -/

/-- What stood behind an entry that is taken out is behind what stood before it. -/
theorem next?_erase (hnodup : ids.Nodup) (hmem : id ∈ ids) (other : NodeId) :
    next? other (ids.erase id) =
      if other = id then none
      else if prev? id ids = some other then next? id ids else next? other ids := by
  obtain ⟨front, back, rfl, hfront, hback, hfrontNodup, -, herase⟩ := exists_split hnodup hmem
  rw [herase, prev?_middle hback, next?_middle hfront, next?_append_of_nodup hfrontNodup,
    next?_append_of_nodup hfrontNodup]
  by_cases hid : other = id
  · subst hid
    have hlast : front.getLast? ≠ some other := fun h => hfront (List.mem_of_getLast? h)
    simp [hlast, hfront, next?_of_not_mem hback]
  · by_cases hlast : front.getLast? = some other
    · simp [hid, hlast]
    · simp [hid, hlast, next?, Ne.symm hid]

/-- What stood before an entry that is taken out is before what stood behind it. -/
theorem prev?_erase (hnodup : ids.Nodup) (hmem : id ∈ ids) (other : NodeId) :
    prev? other (ids.erase id) =
      if other = id then none
      else if next? id ids = some other then prev? id ids else prev? other ids := by
  have hreverse : (ids.erase id).reverse = ids.reverse.erase id := by
    obtain ⟨front, back, rfl, hfront, hback, -, -, herase⟩ := exists_split hnodup hmem
    rw [herase]
    simp [List.erase_append, hback]
  rw [prev?, hreverse, next?_erase (List.nodup_reverse.mpr hnodup) (List.mem_reverse.mpr hmem)]
  simp [prev?]

/-- If the first entry is taken out, the next one is the first. -/
theorem head?_erase (hnodup : ids.Nodup) (hmem : id ∈ ids) :
    (ids.erase id).head? = if prev? id ids = none then next? id ids else ids.head? := by
  obtain ⟨front, back, rfl, hfront, hback, -, -, herase⟩ := exists_split hnodup hmem
  rw [herase, prev?_middle hback, next?_middle hfront]
  cases front <;> simp

/-- If the last entry is taken out, the one before it is the last. -/
theorem getLast?_erase (hnodup : ids.Nodup) (hmem : id ∈ ids) :
    (ids.erase id).getLast? = if next? id ids = none then prev? id ids else ids.getLast? := by
  obtain ⟨front, back, rfl, hfront, hback, -, -, herase⟩ := exists_split hnodup hmem
  rw [herase, prev?_middle hback, next?_middle hfront]
  cases back <;> simp [List.getLast?_append]

/-! ## Putting back an entry -/

/-- An entry that is taken out and put before the one that was behind it is where it was. -/
theorem insertBefore_erase (hnodup : ids.Nodup) (hnext : next? id ids = some sibling) :
    insertBefore sibling id (ids.erase id) = ids := by
  have hmem : id ∈ ids := mem_of_prev? ((next?_eq_some_iff hnodup).mp hnext)
  obtain ⟨front, back, rfl, hfront, -, -, -, herase⟩ := exists_split hnodup hmem
  rw [next?_middle hfront, List.head?_eq_some_iff] at hnext
  obtain ⟨rest, rfl⟩ := hnext
  have hsibling : sibling ∉ front := by
    intro hsibling
    exact (List.nodup_append.mp hnodup).2.2 sibling hsibling sibling (by simp) rfl
  rw [herase, insertBefore_middle hsibling]

/-- The last entry that is taken out and added at the end is where it was. -/
theorem erase_concat_of_last (hnodup : ids.Nodup) (hlast : ids.getLast? = some id) :
    ids.erase id ++ [id] = ids := by
  obtain ⟨front, rfl⟩ := List.getLast?_eq_some_iff.mp hlast
  have hid : id ∉ front := fun hid => (List.nodup_append.mp hnodup).2.2 id hid id (by simp) rfl
  rw [List.erase_append_right _ hid, List.erase_cons_head, List.append_nil]

/-- A new entry that is taken out again leaves the list as it was. -/
theorem erase_insertBefore (hnew : id ∉ ids) : (insertBefore sibling id ids).erase id = ids := by
  induction ids with
  | nil => rfl
  | cons head tail ih =>
      obtain ⟨hhead, htail⟩ := not_or.mp (List.mem_cons.not.mp hnew)
      rw [insertBefore]
      split
      · rw [List.erase_cons_head]
      · rw [List.erase_cons_tail (by simpa using Ne.symm hhead), ih htail]

end Siblings

/-! ## Following links -/

/-- Following `next` from `link` meets the nodes `ids`, in that order, and then ends. -/
def Follows (next : NodeId → Link) : Link → List NodeId → Prop
  | link, [] => link = none
  | link, id :: rest => link = some id ∧ Follows next (next id) rest

/-- A chain meets a list without repetition when it starts at the first entry and each entry's link
is the one behind it. -/
theorem follows_iff {next : NodeId → Link} {link : Link} {ids : List NodeId}
    (hnodup : ids.Nodup) :
    Follows next link ids ↔ link = ids.head? ∧ ∀ id ∈ ids, next id = Siblings.next? id ids := by
  induction ids generalizing link with
  | nil => simp [Follows]
  | cons head tail ih =>
      obtain ⟨hhead, htail⟩ := List.nodup_cons.mp hnodup
      have hrest : ∀ id ∈ tail, Siblings.next? id (head :: tail) = Siblings.next? id tail := by
        intro id hid
        have hne : head ≠ id := fun h => hhead (h ▸ hid)
        rw [Siblings.next?, if_neg hne]
      simp only [Follows, ih htail, List.head?_cons, List.forall_mem_cons]
      constructor
      · rintro ⟨hlink, hnext, hall⟩
        exact ⟨hlink, by simpa [Siblings.next?] using hnext,
          fun id hid => (hall id hid).trans (hrest id hid).symm⟩
      · rintro ⟨hlink, hnext, hall⟩
        exact ⟨hlink, by simpa [Siblings.next?] using hnext,
          fun id hid => (hall id hid).trans (hrest id hid)⟩

/-- Links lead to one chain only. -/
theorem Follows.unique {next : NodeId → Link} {link : Link} {ids others : List NodeId}
    (h : Follows next link ids) (hother : Follows next link others) : ids = others := by
  induction ids generalizing link others with
  | nil =>
      cases others with
      | nil => rfl
      | cons head others => exact absurd (h.symm.trans hother.1) (by simp)
  | cons head ids ih =>
      cases others with
      | nil => exact absurd (h.1.symm.trans hother) (by simp)
      | cons second others =>
          cases Option.some.inj (h.1.symm.trans hother.1)
          rw [ih h.2 hother.2]

/-- From an entry on, a chain is the rest of the list. -/
theorem Follows.of_mem {next : NodeId → Link} {link : Link} {id : NodeId} {front back : List NodeId}
    (h : Follows next link (front ++ id :: back)) : Follows next (some id) (id :: back) := by
  induction front generalizing link with
  | nil => exact ⟨rfl, h.2⟩
  | cons head front ih => exact ih h.2

/-- A chain that ends meets no node twice. -/
theorem Follows.nodup {next : NodeId → Link} {link : Link} {ids : List NodeId}
    (h : Follows next link ids) : ids.Nodup := by
  induction ids generalizing link with
  | nil => exact List.nodup_nil
  | cons head tail ih =>
      refine List.nodup_cons.mpr ⟨fun hmem => ?_, ih h.2⟩
      -- Met again, the first node would have the whole chain behind it.
      obtain ⟨front, back, rfl⟩ := List.append_of_mem hmem
      have hagain : Follows next (some head) (head :: (front ++ head :: back)) := ⟨rfl, h.2⟩
      have hsame := (Follows.of_mem h.2).unique hagain
      have hlength := congrArg List.length hsame
      simp only [List.length_cons, List.length_append] at hlength
      omega

/-- Every entry of a chain but the last leads on. -/
theorem Follows.exists_next {next : NodeId → Link} {link : Link} {id : NodeId} {ids : List NodeId}
    (h : Follows next link ids) (hid : id ∈ ids.dropLast) : ∃ behind, next id = some behind := by
  induction ids generalizing link with
  | nil => cases hid
  | cons head tail ih =>
      cases tail with
      | nil => cases hid
      | cons second tail =>
          rw [List.dropLast_cons_cons, List.mem_cons] at hid
          rcases hid with rfl | hid
          · exact ⟨second, h.2.1⟩
          · exact ih h.2 hid

end HtmlTemplate
