import HtmlTemplate.Proofs.Rendering.Gaps
import HtmlTemplate.Proofs.Rendering.Reader

/-!
# Renderings are read back

Nothing in the template language is escaped, so a rendering can be read only where its names and
values keep clear of its delimiters. `Dom.ReadableNode` says so of one node. When it holds of all
nodes that a rendering treats, the rendering is read back as the tree of its root, whatever stands
behind it (`WellFormed.read_render`).
-/

namespace HtmlTemplate

open Source (isNameChar IsName IsExpression IsValue Quotable Bare)

/-! ## Names -/

namespace Constructor

/-- A name may be followed by any characters of names. -/
theorem isName_append {lead rest : String} (hlead : IsName lead)
    (hrest : rest.toList.all isNameChar = true) : IsName (lead ++ rest) := by
  refine ⟨?_, ?_⟩
  · intro hempty
    have hlists := congrArg String.toList hempty
    rw [String.toList_append, String.toList_empty, List.append_eq_nil_iff] at hlists
    exact hlead.1 (String.toList_eq_nil_iff.mp hlists.1)
  · rw [String.toList_append, List.all_append, hlead.2, hrest]
    rfl

/-- A text without other characters than those of a name can be part of a name. -/
theorem all_isNameChar {name rest : String} (h : IsName name)
    (hrest : ∀ c ∈ rest.toList, c ∈ name.toList) : rest.toList.all isNameChar = true :=
  List.all_eq_true.mpr fun c hc => h.isNameChar_of_mem (hrest c hc)

/-- What follows a lead has no other characters than the whole. -/
theorem mem_of_dropLead? {lead name rest : String} (h : Ascii.dropLead? lead name = some rest)
    {c : Char} (hc : c ∈ rest.toList) : c ∈ name.toList := by
  rw [Ascii.dropLead?_eq_some_iff.mp h, String.toList_append]
  exact List.mem_append_right _ hc

/-- What is left without a lead has no characters of its own. -/
theorem mem_of_getD_dropLead? {lead name : String} {c : Char}
    (hc : c ∈ ((Ascii.dropLead? lead name).getD name).toList) : c ∈ name.toList := by
  cases hdrop : Ascii.dropLead? lead name with
  | none => rwa [hdrop] at hc
  | some rest =>
      rw [hdrop] at hc
      exact mem_of_dropLead? hdrop hc

/-- The rest of a prefixed name has no characters of its own. -/
theorem mem_of_prefixedHx? {catalog : Catalog} {name rest : String}
    (h : prefixedHx? catalog name = some rest) {c : Char} (hc : c ∈ rest.toList) :
    c ∈ name.toList := by
  obtain ⟨hx, hdata, h⟩ := Option.bind_eq_some_iff.mp h
  obtain ⟨-, -, hrest⟩ := Option.bind_eq_some_iff.mp h
  exact mem_of_dropLead? hdata (mem_of_dropLead? hrest hc)

/-- A member is a name if its rest has only characters of names. -/
theorem isName_hxMember {rest : String} (hrest : rest.toList.all isNameChar = true) :
    IsName (hxMember rest) := by
  refine isName_append ⟨by decide, by decide⟩ (List.all_eq_true.mpr ?_)
  intro c hc
  rw [String.toList_ofList] at hc
  obtain ⟨d, hd, rfl⟩ := List.mem_map.mp hc
  split
  · decide
  · exact List.all_eq_true.mp hrest d hd

/-- The constructor of a name is an expression for a name. -/
theorem isExpression_ofName (catalog : Catalog) {name : String} (h : IsName name) :
    IsExpression (ofName catalog name) := by
  rw [ofName]
  split
  · exact Or.inl (isName_append h (by decide))
  · exact Or.inl (isName_append ⟨by decide, by decide⟩
      (all_isNameChar h fun _ hc => mem_of_getD_dropLead? hc))
  · exact Or.inl (isName_hxMember (all_isNameChar h fun _ hc => mem_of_getD_dropLead? hc))
  · split
    next rest hrest =>
      exact Or.inl (isName_hxMember (all_isNameChar h fun _ hc => mem_of_prefixedHx? hrest hc))
    next =>
      split
      · exact Or.inr ⟨name, h, rfl⟩
      · exact Or.inl h

end Constructor

/-! ## Values -/

namespace Ascii

/-- Only letters change when they are put in lower case, and they become letters. -/
theorem toLower_cases (c : Char) : c.toLower = c ∨ 65 ≤ c.toLower.toNat := by
  by_cases hupper : c.val ≥ 'A'.val ∧ c.val ≤ 'Z'.val
  · right
    rw [show c.toLower = _ from dif_pos hupper]
    have hlow : 65 ≤ c.val.toNat := hupper.1
    have hhigh : c.val.toNat ≤ 90 := hupper.2
    show 65 ≤ (c.val + 32).toNat
    rw [UInt32.toNat_add]
    show 65 ≤ (c.val.toNat + 32) % 2 ^ 32
    omega
  · exact .inl (dif_neg hupper)

/-- Only letters change when they are put in upper case, and they become letters. -/
theorem toUpper_cases (c : Char) : c.toUpper = c ∨ 65 ≤ c.toUpper.toNat := by
  by_cases hlower : 'a'.val ≤ c.val ∧ c.val ≤ 'z'.val
  · right
    rw [show c.toUpper = _ from dif_pos hlower]
    have hlow : 97 ≤ c.val.toNat := hlower.1
    have hhigh : c.val.toNat ≤ 122 := hlower.2
    show 65 ≤ (c.val + ('A'.val - 'a'.val)).toNat
    rw [UInt32.toNat_add]
    show 65 ≤ (c.val.toNat + 4294967264) % 2 ^ 32
    omega
  · exact .inl (dif_neg hlower)

end Ascii

namespace Literal

/-- Where characters stay as they are or become ones from `A` on, no `; ` comes up. -/
theorem not_infix_map {change : Char → Char} {cs : List Char}
    (hchange : ∀ c, change c = c ∨ 65 ≤ (change c).toNat) (h : ¬ [';', ' '] <:+: cs) :
    ¬ [';', ' '] <:+: cs.map change := by
  have hkept : ∀ c d, d.toNat < 65 → change c = d → c = d := by
    intro c d hd hc
    rcases hchange c with hsame | hletter
    · exact hsame.symm.trans hc
    · exact absurd hd (Nat.not_lt.mpr (hc ▸ hletter))
  intro hin
  obtain ⟨part, hpart, hmap⟩ := List.infix_map_iff.mp hin
  obtain ⟨c, others, rfl, hc, hothers⟩ := List.map_eq_cons_iff.mp hmap.symm
  obtain ⟨d, none, rfl, hd, hnone⟩ := List.map_eq_cons_iff.mp hothers
  obtain rfl := List.map_eq_nil_iff.mp hnone
  rw [hkept c ';' (by decide) hc, hkept d ' ' (by decide) hd] at hpart
  exact h hpart

/-- A variant is bare when its value does not hold `; `. -/
theorem bare_ofVariant {value : String} (h : ¬ [';', ' '] <:+: value.toList) :
    Bare (ofVariant value) := by
  have hlower : ¬ [';', ' '] <:+: (Ascii.lower value).toList := by
    rw [Ascii.toList_lower]
    exact not_infix_map Ascii.toLower_cases h
  have hupper : ¬ [';', ' '] <:+: (Ascii.upper (Ascii.lower value)).toList := by
    rw [Ascii.toList_upper]
    exact not_infix_map Ascii.toUpper_cases hlower
  have hunderscore : ∀ c : Char, (if c = '-' then '_' else c) = c ∨
      65 ≤ (if c = '-' then '_' else c).toNat := by
    intro c
    split
    · exact Or.inr (by decide)
    · exact Or.inl rfl
  have hbody : ∀ tag : String, ¬ [';', ' '] <:+: tag.toList →
      Bare (String.ofList ('\x60' :: tag.toList.map fun c => if c = '-' then '_' else c)) := by
    intro tag htag
    rw [Bare, String.toList_ofList, List.infix_cons_iff]
    refine ⟨by simp, by simp, ?_⟩
    rintro (hfront | hin)
    · simp at hfront
    · exact not_infix_map hunderscore htag hin
  rw [ofVariant]
  split
  · exact hbody _ hupper
  · exact hbody _ hlower

/-- The value of an attribute keeps clear of delimiters, by the form that the catalog gives to it. A
boolean value is not written. -/
def KeepsClear (catalog : Catalog) (value name : String) : Prop :=
  (catalog.valueKind name = .poly → ¬ [';', ' '] <:+: value.toList) ∧
    (catalog.valueKind name = .integer → Bare value) ∧
    (catalog.valueKind name = .string → Quotable value)

instance (catalog : Catalog) (value name : String) : Decidable (KeepsClear catalog value name) :=
  inferInstanceAs (Decidable (_ ∧ _))

/-- The code of a value that keeps clear of delimiters can be read back. -/
theorem isValue_ofValue {catalog : Catalog} {value name : String}
    (h : KeepsClear catalog value name) : IsValue (ofValue catalog (some value) (some name)) := by
  obtain ⟨hpoly, hinteger, hstring⟩ := h
  rw [ofValue, Option.elim]
  cases hkind : catalog.valueKind name with
  | poly => exact Or.inr (bare_ofVariant (hpoly hkind))
  | integer => exact Or.inr (hinteger hkind)
  | boolean => exact Or.inl ⟨"", by decide, show empty = ofText "" by decide⟩
  | string => exact Or.inl ⟨value, hstring hkind, rfl⟩

end Literal

/-! ## Nodes -/

namespace Dom

/-- What the node `id` says keeps clear of delimiters: its tag and the names of its attributes are
names, and its strings and values can be told from what stands behind them. -/
def ReadablePayload (catalog : Catalog) (dom : Dom) (id : NodeId) : Payload → Prop
  | .element name attributes =>
      IsName (Ascii.lower name.localName) ∧
        (∀ attr ∈ attributes, IsName attr.qualifiedName ∧
          Literal.KeepsClear catalog attr.value attr.qualifiedName) ∧
        (catalog.tagKind (Ascii.lower name.localName) = .text →
          Quotable (dom.textContent (some id)))
  | .text content | .comment content => Quotable content
  | .document | .fragment | .doctype .. | .instruction .. => True

instance (catalog : Catalog) (dom : Dom) (id : NodeId) :
    DecidablePred (dom.ReadablePayload catalog id)
  | .element .. => inferInstanceAs (Decidable (_ ∧ _ ∧ _))
  | .text content | .comment content => inferInstanceAs (Decidable (Quotable content))
  | .document | .fragment | .doctype .. | .instruction .. => inferInstanceAs (Decidable True)

/-- Whatever the node `id` says keeps clear of delimiters. -/
def ReadableNode (catalog : Catalog) (dom : Dom) (id : NodeId) : Prop :=
  ∀ payload ∈ dom.payload? (some id), dom.ReadablePayload catalog id payload

instance (catalog : Catalog) (dom : Dom) : DecidablePred (dom.ReadableNode catalog) :=
  fun _ => inferInstanceAs (Decidable (∀ payload ∈ _, _))

variable {catalog : Catalog} {dom : Dom} {id root : NodeId}

/-- Attributes whose names are names and whose values keep clear of delimiters are read back. -/
theorem readable_attributes {attributes : List Attribute}
    (h : ∀ attr ∈ attributes, IsName attr.qualifiedName ∧
      Literal.KeepsClear catalog attr.value attr.qualifiedName) :
    ∀ pair ∈ attributes.map (attributeSource catalog), IsExpression pair.1 ∧ IsValue pair.2 := by
  intro pair hpair
  obtain ⟨attr, hattr, rfl⟩ := List.mem_map.mp hpair
  obtain ⟨hname, hvalue⟩ := h attr hattr
  exact ⟨Constructor.isExpression_ofName catalog hname, Literal.isValue_ofValue hvalue⟩

/-- The tree of a node is readable when all nodes that its rendering treats keep clear of
delimiters. -/
theorem Traversable.readable_source (h : dom.Traversable)
    (hnodes : ∀ id ∈ dom.treated catalog root, dom.ReadableNode catalog id) {tree : Source}
    (htree : dom.source? catalog root = some tree) : tree.Readable catalog := by
  refine h.source?_induction (motive := Source.Readable catalog) ?_ htree
  intro id hid payload hpayload tree hsource hitems
  have hself : dom.ReadablePayload catalog id payload := hnodes id hid payload hpayload
  cases payload with
  | element name attributes =>
      obtain ⟨htag, hattributes, htext⟩ := hself
      have hpairs := readable_attributes hattributes
      rw [payloadSource] at hsource
      cases hkind : catalog.tagKind (Ascii.lower name.localName) with
      | void =>
          simp only [hkind, Option.some.injEq] at hsource
          exact hsource ▸ .void htag hkind hpairs
      | text =>
          simp only [hkind, Option.some.injEq] at hsource
          exact hsource ▸ .flat htag hkind hpairs (htext hkind)
      | normal =>
          simp only [hkind, Option.some.injEq] at hsource
          subst hsource
          exact .list htag hkind hpairs hitems
  | text content =>
      cases hsource
      exact .text hself
  | comment content =>
      cases hsource
      exact .comment hself
  | _ => cases hsource

/-- The tree of a node is readable if all nodes that are treated are. -/
theorem WellFormed.readable_source (h : dom.WellFormed) (hroot : root < dom.size)
    (hnodes : ∀ id ∈ dom.reached catalog root, dom.ReadableNode catalog id) {tree : Source}
    (htree : dom.source? catalog root = some tree) : tree.Readable catalog := by
  rw [← h.treated_eq catalog hroot] at hnodes
  exact h.traversable.readable_source hnodes htree

/-- The rendering of an element, a text or a comment is read back as its tree, and what stands
behind it is left, when every node that is treated keeps clear of delimiters. -/
theorem WellFormed.read_render (h : dom.WellFormed) (catalog : Catalog)
    (hkind : dom.kind? (some root) = some .element ∨ dom.kind? (some root) = some .text ∨
      dom.kind? (some root) = some .comment)
    (hnodes : ∀ id ∈ dom.reached catalog root, dom.ReadableNode catalog id) (rest : String) :
    ∃ tree, dom.source? catalog root = some tree ∧
      Source.read catalog ((dom.render catalog (some root)).content ++ rest) =
        some (tree, rest) := by
  have hroot : root < dom.size := by
    refine Nat.not_le.mp fun hge => ?_
    rw [kind?, get?_eq_none_iff.mpr hge] at hkind
    simp at hkind
  have hform : dom.formless? root = none := by
    rw [formless?]
    rcases hkind with hkind | hkind | hkind <;> rw [hkind] <;> rfl
  obtain ⟨tree, htree⟩ : ∃ tree, dom.source? catalog root = some tree :=
    exists_sourceWithin hroot hform dom.size
  exact ⟨tree, htree, Source.read_print (h.readable_source hroot hnodes htree)
    (h.toList_content_render hroot htree) rest⟩

/-- A catalog with a reserved word, a number and an element without content. -/
def smallCatalog : Catalog :=
  ((Catalog.empty.registerNames .suffix ["class"]).registerValues .integer ["width"]).registerTags
    .void ["img"]

/-- The steps that make a paragraph of a quotation, a picture and a comment. -/
def quotationSteps : List Step :=
  [.create (.element (.html "P") [.plain "class" "q", .plain "data-id" "a\"b"]), .append 0 1,
    .appendText 1 "txt \"no\";", .create (.element (.html "img") [.plain "width" "4"]), .append 1 3,
    .create (.comment "]"), .append 1 4]

/-- The document is built by valid steps. -/
theorem validRun_quotationSteps : Dom.empty.ValidRun quotationSteps :=
  validRun_of_check (by decide)

/-- The paragraph is read back, with the rest of the text behind it. -/
theorem read_render_quotation :
    let dom := Dom.empty.run quotationSteps
    dom.WellFormed ∧ dom.kind? (some 1) = some .element ∧
      (∀ id ∈ dom.reached smallCatalog 1, dom.ReadableNode smallCatalog id) ∧
      ∃ tree, dom.source? smallCatalog 1 = some tree ∧
        Source.read smallCatalog ((dom.render smallCatalog (some 1)).content ++ "; p []") =
          some (tree, "; p []") := by
  intro dom
  have hwell : dom.WellFormed := wellFormed_empty.run validRun_quotationSteps
  have hkind : dom.kind? (some 1) = some .element := by decide
  have hreached : dom.reached smallCatalog 1 = [1, 2, 3, 4] := by
    have hroot : 1 < dom.size := by decide
    rw [← hwell.visited_events hroot ((hwell.fits hroot).mono (Nat.le_succ _))]
    decide
  have hnodes : ∀ id ∈ dom.reached smallCatalog 1, dom.ReadableNode smallCatalog id := by
    rw [hreached]
    decide
  exact ⟨hwell, hkind, hnodes, hwell.read_render smallCatalog (Or.inl hkind) hnodes _⟩

end Dom

end HtmlTemplate
