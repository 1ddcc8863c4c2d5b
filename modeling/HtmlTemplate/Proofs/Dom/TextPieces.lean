import HtmlTemplate.Proofs.Dom.Operations

/-!
# Text that arrives in pieces

The first piece of a text that is put under a node may make a new node; every later piece then finds
that node as the last child and is added to it. So pieces make the same document as the whole text,
numbers of nodes included (`appendText_pieces`). Nothing is asked of the links of the document: the
last child of the parent may be missing, or stand elsewhere, or bear the number of the node that is
made next.
-/

namespace HtmlTemplate.Dom

variable {dom : Dom} {above : NodeId}

/-- A node that exists has the same last child when a node is added. -/
theorem lastChild_create (habove : above < dom.size) (payload : Payload) :
    (dom.create payload).1.lastChild (some above) = dom.lastChild (some above) := by
  have hne : (some above : Link) ≠ some dom.size := fun heq =>
    Nat.ne_of_lt habove (Option.some.inj heq)
  rw [lastChild, get?_create, if_neg hne, lastChild]

/-- What a new node says can be said after it has been put in its place. -/
theorem update_append_create (habove : above < dom.size) (early late : Payload) :
    (((dom.create early).1.append (some above) (some dom.size)).update (some dom.size)
        fun node => { node with payload := late }) =
      (dom.create late).1.append (some above) (some dom.size) := by
  refine eq_of_get? fun id => ?_
  rw [get?_update_map, get?_append, get?_append, get?_create, get?_create,
    lastChild_create habove, lastChild_create habove]
  by_cases hid : id = dom.size
  · subst hid
    simp
  · have hne : (some id : Link) ≠ some dom.size := fun heq => hid (Option.some.inj heq)
    simp [hne, Ne.symm hid, Function.comp_def]

/-- Two texts that are put under a node one after the other are one text. -/
theorem appendText_appendText (habove : above < dom.size) (first second : String) :
    (dom.appendText (some above) first).appendText (some above) second =
      dom.appendText (some above) (first ++ second) := by
  by_cases htext : ∃ old, dom.payload? (dom.lastChild (some above)) = some (.text old)
  · obtain ⟨old, hold⟩ := htext
    -- The last child is a text, and stays the last child when it says more.
    obtain ⟨place, hplace, hpayload⟩ := Option.map_eq_some_iff.mp hold
    have hlast : (dom.appendText (some above) first).lastChild (some above) =
        dom.lastChild (some above) := by
      rw [appendText_of_text hold, lastChild, get?_update]
      split
      · rw [Option.bind_map]
        rfl
      · rfl
    have hsaid : (dom.appendText (some above) first).payload?
        ((dom.appendText (some above) first).lastChild (some above)) =
          some (.text (old ++ first)) := by
      rw [hlast, appendText_of_text hold, payload?, get?_update, if_pos rfl, hplace]
      rfl
    rw [appendText_of_text hsaid, hlast, appendText_of_text hold, appendText_of_text hold,
      update_update, String.append_assoc]
  · -- The first text is made a new node, which the second one finds as the last child.
    have hno := not_exists.mp htext
    have hlast : (dom.appendText (some above) first).lastChild (some above) = some dom.size := by
      have hgrown : above < (dom.create (.text first)).1.size := by
        rw [size_create]
        exact Nat.lt_succ_of_lt habove
      rw [appendText_of_no_text hno, lastChild_append hgrown, if_pos rfl]
    have hsaid : (dom.appendText (some above) first).payload?
        ((dom.appendText (some above) first).lastChild (some above)) = some (.text first) := by
      rw [hlast, appendText_of_no_text hno, payload?_append, payload?_size_create]
    rw [appendText_of_text hsaid, hlast, appendText_of_no_text hno, appendText_of_no_text hno,
      update_append_create habove]

/-- A text that arrives in one or more pieces makes the same document as the whole text. -/
theorem appendText_pieces (habove : above < dom.size) {pieces : List String} (hne : pieces ≠ []) :
    pieces.foldl (fun dom piece => dom.appendText (some above) piece) dom =
      dom.appendText (some above) (String.join pieces) := by
  obtain ⟨first, rest, rfl⟩ := List.exists_cons_of_ne_nil hne
  clear hne
  -- What has arrived so far is one text, to which the next piece is added.
  induction rest generalizing first with
  | nil => simp
  | cons second rest ih =>
      rw [List.foldl_cons, List.foldl_cons, appendText_appendText habove, ← List.foldl_cons, ih]
      simp [String.append_assoc]

/-- The document has a last child with the number of the next node; the text of three pieces, one of
them empty, becomes that node. -/
theorem appendText_pieces_dangling :
    let dom := Dom.empty.append (some 0) (some 1)
    0 < dom.size ∧ dom.lastChild (some 0) = some dom.size ∧ ["one ", "", "two"] ≠ [] ∧
      ["one ", "", "two"].foldl (fun dom piece => dom.appendText (some 0) piece) dom =
        dom.appendText (some 0) "one two" := by
  intro dom
  have hdocument : 0 < dom.size := by decide
  have hpieces : ["one ", "", "two"] ≠ [] := List.cons_ne_nil _ _
  have hjoin : String.join ["one ", "", "two"] = "one two" := by decide
  exact ⟨hdocument, by decide, hpieces, hjoin ▸ appendText_pieces hdocument hpieces⟩

end HtmlTemplate.Dom
