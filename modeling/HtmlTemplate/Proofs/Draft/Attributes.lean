import HtmlTemplate.Draft
import HtmlTemplate.Proofs.Dom.Operations
import Mathlib.Data.List.Induction

/-!
# Attributes that are added later

`Draft.addMissingAttributes` changes the payload of one node and nothing else
(`Draft.dom_addMissingAttributes`). An element keeps its name and the attributes it has, with their
places and values; behind them it gets the first attribute of each new name
(`Draft.foldl_addAttribute_eq`). So an element takes attributes as a set takes members: in one go or
in several, and each name once (`Draft.addMissingAttributes_as_set`).
-/

namespace HtmlTemplate

/-- The names of attributes, in order. -/
def Attribute.names (attributes : List Attribute) : List QualifiedName :=
  attributes.map (·.name)

/-- An element with those attributes added whose names it does not have yet; any other payload as it
is. -/
def Payload.addAttributes (attributes : List Attribute) : Payload → Payload
  | .element name old => .element name (attributes.foldl Draft.addAttribute old)
  | payload => payload

namespace Draft

/-- Adding attributes is an update of one payload. -/
theorem dom_addMissingAttributes (draft : Draft) (element : Link) (attributes : List Attribute) :
    (draft.addMissingAttributes element attributes).dom =
      draft.dom.update element fun node =>
        { node with payload := node.payload.addAttributes attributes } := by
  refine congrArg (draft.dom.update element) (funext fun node => ?_)
  obtain ⟨payload⟩ := node
  cases payload <;> rfl

/-- Adding attributes changes the document and nothing beside it. -/
theorem addMissingAttributes_eq (draft : Draft) (element : Link) (attributes : List Attribute) :
    draft.addMissingAttributes element attributes =
      { draft with dom := draft.dom.update element fun node =>
          { node with payload := node.payload.addAttributes attributes } } := by
  rw [← dom_addMissingAttributes]
  rfl

/-- Adding attributes to a list leaves the list in front of what is added. -/
theorem exists_foldl_addAttribute (old attributes : List Attribute) :
    ∃ more, attributes.foldl addAttribute old = old ++ more := by
  induction attributes generalizing old with
  | nil => exact ⟨[], (List.append_nil old).symm⟩
  | cons attr attributes ih =>
      obtain ⟨more, hmore⟩ := ih (addAttribute old attr)
      rw [List.foldl_cons, hmore, addAttribute]
      split
      · exact ⟨more, rfl⟩
      · exact ⟨attr :: more, List.append_assoc old [attr] more⟩

/-! ## What is added -/

/-- Those attributes whose names are neither among the names of `old` nor among the names in front
of them: the first attribute of each new name. -/
def newAttributes (old attributes : List Attribute) : List Attribute :=
  (attributes.zipIdx.filter fun entry =>
    entry.1.name ∉ Attribute.names (old ++ attributes.take entry.2)).map Prod.fst

/-- A last attribute is new when its name stands nowhere in front of it. -/
theorem newAttributes_concat (old attributes : List Attribute) (attr : Attribute) :
    newAttributes old (attributes ++ [attr]) =
      newAttributes old attributes ++
        if attr.name ∈ Attribute.names (old ++ attributes) then [] else [attr] := by
  have hfront : ∀ entry ∈ attributes.zipIdx,
      (attributes ++ [attr]).take entry.2 = attributes.take entry.2 := fun entry hentry =>
    List.take_append_of_le_length (Nat.le_of_lt (List.snd_lt_of_mem_zipIdx hentry))
  rw [newAttributes, List.zipIdx_append, List.filter_append, List.map_append, newAttributes]
  congr 1
  · refine congrArg (List.map _) (List.filter_congr fun entry hentry => ?_)
    rw [hfront entry hentry]
  · by_cases hmem : attr.name ∈ Attribute.names (old ++ attributes) <;> simp [hmem]

/-- One attribute is added when its name is not there. -/
theorem addAttribute_eq (attributes : List Attribute) (attr : Attribute) :
    addAttribute attributes attr =
      attributes ++ if attr.name ∈ Attribute.names attributes then [] else [attr] := by
  have hany : attributes.any (·.name == attr.name) = true ↔
      attr.name ∈ Attribute.names attributes := by
    simp [Attribute.names]
  rw [addAttribute]
  by_cases hmem : attr.name ∈ Attribute.names attributes
  · rw [if_pos (hany.mpr hmem), if_pos hmem, List.append_nil]
  · rw [if_neg (hany.not.mpr hmem), if_neg hmem]

/-- The names that are there afterwards are those that were there and those that were to be
added. -/
theorem mem_names_foldl_addAttribute (old attributes : List Attribute) (name : QualifiedName) :
    name ∈ Attribute.names (attributes.foldl addAttribute old) ↔
      name ∈ Attribute.names (old ++ attributes) := by
  induction attributes generalizing old with
  | nil => rw [List.foldl_nil, List.append_nil]
  | cons attr attributes ih =>
      rw [List.foldl_cons, ih, addAttribute_eq]
      by_cases hmem : attr.name ∈ Attribute.names old
      · rw [if_pos hmem, List.append_nil]
        simp only [Attribute.names, List.map_append, List.map_cons, List.mem_append,
          List.mem_cons] at hmem ⊢
        constructor
        · exact Or.imp_right Or.inr
        · rintro (hold | rfl | hmore)
          · exact Or.inl hold
          · exact Or.inl hmem
          · exact Or.inr hmore
      · rw [if_neg hmem, List.append_assoc]
        rfl

/-- Adding attributes one by one adds the first of each new name. -/
theorem foldl_addAttribute_eq (old attributes : List Attribute) :
    attributes.foldl addAttribute old = old ++ newAttributes old attributes := by
  -- The induction is from the end: whether a last attribute is new depends on all before it.
  induction attributes using List.reverseRecOn with
  | nil => exact (List.append_nil old).symm
  | append_singleton attributes attr ih =>
      rw [List.foldl_append, List.foldl_cons, List.foldl_nil, addAttribute_eq, newAttributes_concat,
        ← List.append_assoc, ← ih]
      simp only [mem_names_foldl_addAttribute]

/-- Where all names are there, no attribute is added. -/
theorem foldl_addAttribute_of_present {old attributes : List Attribute}
    (h : ∀ attr ∈ attributes, attr.name ∈ Attribute.names old) :
    attributes.foldl addAttribute old = old := by
  induction attributes with
  | nil => rfl
  | cons attr attributes ih =>
      obtain ⟨hattr, hrest⟩ := List.forall_mem_cons.mp h
      rw [List.foldl_cons, addAttribute_eq, if_pos hattr, List.append_nil, ih hrest]

/-- Adding an attribute repeats no name. -/
theorem nodup_names_addAttribute {attributes : List Attribute}
    (h : (Attribute.names attributes).Nodup) (attr : Attribute) :
    (Attribute.names (addAttribute attributes attr)).Nodup := by
  rw [addAttribute_eq]
  split
  · rwa [List.append_nil]
  · next hmem =>
      rw [Attribute.names, List.map_append, List.map_singleton, ← List.concat_eq_append]
      exact h.concat hmem

/-- Names that are all different stay so. -/
theorem nodup_names_foldl_addAttribute {old : List Attribute} (h : (Attribute.names old).Nodup)
    (attributes : List Attribute) :
    (Attribute.names (attributes.foldl addAttribute old)).Nodup := by
  induction attributes generalizing old with
  | nil => exact h
  | cons attr attributes ih => exact ih (nodup_names_addAttribute h attr)

end Draft

/-- Two lists of attributes are added one after the other. -/
theorem Payload.addAttributes_append (attributes more : List Attribute) (payload : Payload) :
    payload.addAttributes (attributes ++ more) =
      (payload.addAttributes attributes).addAttributes more := by
  cases payload with
  | element name old =>
      rw [addAttributes, List.foldl_append]
      rfl
  | _ => rfl

/-- Attributes that have been added are not added again. -/
theorem Payload.addAttributes_append_self (attributes : List Attribute) (payload : Payload) :
    payload.addAttributes (attributes ++ attributes) = payload.addAttributes attributes := by
  cases payload with
  | element name old =>
      have hpresent : ∀ attr ∈ attributes,
          attr.name ∈ Attribute.names (attributes.foldl Draft.addAttribute old) :=
        fun attr hattr => (Draft.mem_names_foldl_addAttribute ..).mpr
          (List.mem_map_of_mem (List.mem_append_right old hattr))
      rw [addAttributes, List.foldl_append, Draft.foldl_addAttribute_of_present hpresent]
      rfl
  | _ => rfl

namespace Draft

/-! ## Adding to a draft -/

variable (draft : Draft) (element : Link) (attributes : List Attribute)

/-- What becomes of a draft when attributes are added to one of its nodes. -/
structure Gains (after : Draft) : Prop where
  /-- An element has, behind its old attributes, the first attribute of each new name. -/
  attributes_eq : ∀ name old, draft.dom.payload? element = some (.element name old) →
    after.dom.payload? element = some (.element name (old ++ newAttributes old attributes))
  /-- Where all its names were different, they still are. -/
  nodup_names : (Attribute.names (draft.dom.attributes element)).Nodup →
    (Attribute.names (after.dom.attributes element)).Nodup
  /-- No other node changes. -/
  others_eq : ∀ link ≠ element, after.dom.get? link = draft.dom.get? link
  /-- No link changes. -/
  links_eq : ∀ link, (after.dom.get? link).map Node.links = (draft.dom.get? link).map Node.links
  /-- Nothing beside the document changes. -/
  beside_eq : { after with dom := draft.dom } = draft

/-- The element has its attributes and those that were missing. -/
theorem payload?_addMissingAttributes :
    (draft.addMissingAttributes element attributes).dom.payload? element =
      (draft.dom.payload? element).map (·.addAttributes attributes) := by
  rw [dom_addMissingAttributes, Dom.payload?, Dom.get?_update, if_pos rfl, Dom.payload?,
    Option.map_map, Option.map_map]
  rfl

/-- What is no element takes no attributes. -/
theorem addMissingAttributes_of_no_element {draft : Draft} {element : Link}
    (h : draft.dom.kind? element ≠ some .element) (attributes : List Attribute) :
    draft.addMissingAttributes element attributes = draft := by
  have hsame : ∀ node, draft.dom.get? element = some node →
      { node with payload := node.payload.addAttributes attributes } = node := by
    intro node hnode
    rw [Dom.kind?, hnode] at h
    obtain ⟨payload⟩ := node
    cases payload with
    | element => exact absurd rfl h
    | _ => rfl
  rw [addMissingAttributes_eq, Dom.update_eq_self hsame]

/-- The element gains the attributes, and nothing else changes. -/
theorem gains_addMissingAttributes :
    draft.Gains element attributes (draft.addMissingAttributes element attributes) where
  attributes_eq name old hold := by
    rw [payload?_addMissingAttributes, hold, ← foldl_addAttribute_eq]
    rfl
  nodup_names hnodup := by
    rw [Dom.attributes, payload?_addMissingAttributes]
    rw [Dom.attributes] at hnodup
    cases hpayload : draft.dom.payload? element with
    | none => exact List.nodup_nil
    | some payload =>
        rw [hpayload] at hnodup
        cases payload with
        | element name old => exact nodup_names_foldl_addAttribute hnodup attributes
        | _ => exact List.nodup_nil
  others_eq link hne := by
    rw [dom_addMissingAttributes, Dom.get?_update, if_neg hne.symm]
  links_eq link := by
    rw [dom_addMissingAttributes, Dom.get?_update]
    split
    · rw [Option.map_map]
      rfl
    · rfl
  beside_eq := rfl

/-- Attributes that are added one lot after the other are added in one go. -/
theorem addMissingAttributes_append (more : List Attribute) :
    draft.addMissingAttributes element (attributes ++ more) =
      (draft.addMissingAttributes element attributes).addMissingAttributes element more := by
  simp only [addMissingAttributes_eq, Dom.update_update, Payload.addAttributes_append]

/-- Adding attributes gives an element the first of each new name and changes nothing else; what is
added in lots, or again, comes to the same; and nothing happens to what is no element. -/
theorem addMissingAttributes_as_set (more : List Attribute) :
    draft.Gains element attributes (draft.addMissingAttributes element attributes) ∧
      draft.addMissingAttributes element (attributes ++ more) =
        (draft.addMissingAttributes element attributes).addMissingAttributes element more ∧
      (draft.addMissingAttributes element attributes).addMissingAttributes element attributes =
        draft.addMissingAttributes element attributes ∧
      (draft.dom.kind? element ≠ some .element →
        draft.addMissingAttributes element attributes = draft) := by
  refine ⟨draft.gains_addMissingAttributes element attributes,
    draft.addMissingAttributes_append element attributes more, ?_,
    fun h => addMissingAttributes_of_no_element h attributes⟩
  rw [← addMissingAttributes_append]
  simp only [addMissingAttributes_eq, Payload.addAttributes_append_self]

/-- A draft with a link that has one attribute. -/
def linkDraft : Draft :=
  (Draft.empty.create (.element (.html "a") [.plain "href" "/"])).1

/-- A repeated name, a name that the link has, and the same local name with a qualifier. -/
def linkAttributes : List Attribute :=
  [.plain "class" "x", .plain "href" "#", .plain "class" "y",
    { name := { qualifier := some "xlink", space := .xlink, localName := "href" }, value := "#" }]

/-- Two of the attributes are new to the link, and the document takes none. -/
theorem addMissingAttributes_as_set_link :
    let after := linkDraft.addMissingAttributes (some 1) linkAttributes
    linkDraft.dom.kind? (some 0) ≠ some .element ∧
      linkDraft.dom.attributes (some 1) = [.plain "href" "/"] ∧
      (Attribute.names (linkDraft.dom.attributes (some 1))).Nodup ∧
      after.dom.payload? (some 1) = some (.element (.html "a") [.plain "href" "/",
        .plain "class" "x",
        { name := { qualifier := some "xlink", space := .xlink, localName := "href" }
          value := "#" }]) ∧
      (Attribute.names (after.dom.attributes (some 1))).Nodup ∧
      linkDraft.addMissingAttributes (some 0) linkAttributes = linkDraft := by
  intro after
  have hdocument : linkDraft.dom.kind? (some 0) ≠ some .element := by decide
  have hpayload : linkDraft.dom.payload? (some 1) =
      some (.element (.html "a") [.plain "href" "/"]) := by decide
  have hnodup : (Attribute.names (linkDraft.dom.attributes (some 1))).Nodup := by decide
  obtain ⟨hgains, -, -, -⟩ := linkDraft.addMissingAttributes_as_set (some 1) linkAttributes []
  obtain ⟨-, -, -, hnone⟩ := linkDraft.addMissingAttributes_as_set (some 0) linkAttributes []
  exact ⟨hdocument, by decide, hnodup, (hgains.attributes_eq _ _ hpayload).trans (by decide),
    hgains.nodup_names hnodup, hnone hdocument⟩

end Draft

end HtmlTemplate
