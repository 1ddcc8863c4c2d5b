import HtmlTemplate.Proofs.Literal.Variant
import HtmlTemplate.Proofs.Rendering.ReadBack
import Mathlib.Data.List.Forall2

/-!
# Nodes that render alike

The template language has no place for some of what a document says: the case of tags, the values of
boolean attributes, the case and the hyphens of variants, the nodes below elements without content,
how the text of an element with one string is divided, and nodes without a form. `Dom.Alike` says
that two nodes, each of a document of its own, differ in nothing else. Then they have the same tree
(`WellFormed.source?_eq_of_alike`), and so the same source text. Where the text can be read at all,
it tells nodes with different trees apart: `WellFormed.render_ignores` says both.

A tree holds the constructors of attributes and not their names, and some names share a constructor,
such as `class` and `class_`, or `hx-get` and `data-hx-get`. Nodes that differ only in such names
are not `Alike`, but have the same tree as well where their values are written in one form.
-/

namespace HtmlTemplate

/-- Two values of an attribute say the same, by the form that the catalog gives to its name. -/
def Literal.SameValue (catalog : Catalog) (name value other : String) : Prop :=
  match catalog.valueKind name with
  | .boolean => True
  | .poly => fold value = fold other
  | .integer | .string => value = other

/-- Two attributes have the same name, as the markup writes it, and values that say the same. -/
structure Attribute.Alike (catalog : Catalog) (attr other : Attribute) : Prop where
  name_eq : attr.qualifiedName = other.qualifiedName
  sameValue : Literal.SameValue catalog attr.qualifiedName attr.value other.value

namespace Dom

/-- Two nodes, of one document each, differ in nothing that the template language has a place for.
Of elements that take a list of nodes, the children that have a form are alike in pairs; of elements
that take a string, the text is the same. Attributes have the same names, although the language
writes some names alike. -/
inductive Alike (catalog : Catalog) (dom other : Dom) : NodeId → NodeId → Prop where
  | text {id twin : NodeId} {content : String}
      (hpayload : dom.payload? (some id) = some (.text content))
      (htwin : other.payload? (some twin) = some (.text content)) : Alike catalog dom other id twin
  | comment {id twin : NodeId} {content : String}
      (hpayload : dom.payload? (some id) = some (.comment content))
      (htwin : other.payload? (some twin) = some (.comment content)) :
      Alike catalog dom other id twin
  | element {id twin : NodeId} {name twinName : QualifiedName}
      {attributes twinAttributes : List Attribute}
      (hpayload : dom.payload? (some id) = some (.element name attributes))
      (htwin : other.payload? (some twin) = some (.element twinName twinAttributes))
      (hname : Ascii.sameLetters name.localName twinName.localName = true)
      (hattributes : List.Forall₂ (Attribute.Alike catalog) attributes twinAttributes)
      (htext : catalog.tagKind (Ascii.lower name.localName) = .text →
        dom.textContent (some id) = other.textContent (some twin))
      (hitems : catalog.tagKind (Ascii.lower name.localName) = .normal →
        List.Forall₂ (Alike catalog dom other) ((dom.children (some id)).filter dom.hasForm)
          ((other.children (some twin)).filter other.hasForm)) :
      Alike catalog dom other id twin

end Dom

variable {catalog : Catalog} {dom other : Dom} {id twin : NodeId}

/-! ## Attributes -/

/-- Values that say the same are written the same. -/
theorem Literal.SameValue.ofValue_eq {name value other : String}
    (h : SameValue catalog name value other) :
    ofValue catalog (some value) (some name) = ofValue catalog (some other) (some name) := by
  rw [SameValue] at h
  rw [ofValue, ofValue, Option.elim]
  cases hkind : catalog.valueKind name with
  | boolean => rfl
  | poly =>
      rw [hkind] at h
      simp only [ofVariant_eq_fold, show fold value = fold other from h]
  | integer | string =>
      rw [hkind] at h
      rw [show value = other from h]

/-- Attributes that are alike are written the same. -/
theorem Attribute.Alike.attributeSource_eq {attr twin : Attribute} (h : attr.Alike catalog twin) :
    Dom.attributeSource catalog attr = Dom.attributeSource catalog twin := by
  rw [Dom.attributeSource, Dom.attributeSource, ← h.name_eq, h.sameValue.ofValue_eq]

namespace Dom

/-! ## Trees -/

/-- Lists whose entries are related in pairs give the same results when related entries do. -/
theorem filterMap_eq_of_forall₂ {α β γ : Type} {related : α → β → Prop} {f : α → Option γ}
    {g : β → Option γ} {left : List α} {right : List β} (h : List.Forall₂ related left right)
    (heq : ∀ a ∈ left, ∀ b, related a b → f a = g b) : left.filterMap f = right.filterMap g := by
  induction h with
  | nil => rfl
  | @cons a b left right hab _ ih =>
      obtain ⟨hhead, htail⟩ := List.forall_mem_cons.mp heq
      rw [List.filterMap_cons, List.filterMap_cons, hhead b hab, ih htail]

/-- Nodes that are alike have the same tree. -/
theorem WellFormed.source?_eq_of_alike (h : dom.WellFormed) (hother : other.WellFormed)
    (hid : id < dom.size) (halike : Alike catalog dom other id twin) :
    dom.source? catalog id = other.source? catalog twin := by
  refine h.induction_on (motive := fun id => ∀ twin, Alike catalog dom other id twin →
    dom.source? catalog id = other.source? catalog twin) hid ?_ twin halike
  intro id _ ih twin halike
  rw [h.traversable.source?_eq, hother.traversable.source?_eq]
  cases halike with
  | text hpayload htwin | comment hpayload htwin =>
      rw [hpayload, htwin]
      rfl
  | @element _ _ name twinName attributes twinAttributes hpayload htwin hname hattributes htext
      hitems =>
      have htag : Ascii.lower name.localName = Ascii.lower twinName.localName :=
        Ascii.sameLetters_iff.mp hname
      have hpairs : attributes.map (attributeSource catalog) =
          twinAttributes.map (attributeSource catalog) := by
        rw [← List.forall₂_eq_eq_eq, List.forall₂_map_left_iff, List.forall₂_map_right_iff]
        exact hattributes.imp fun _ _ hattr => hattr.attributeSource_eq
      rw [hpayload, htwin, Option.bind_some, Option.bind_some, payloadSource, payloadSource, hpairs,
        ← htag]
      cases hkind : catalog.tagKind (Ascii.lower name.localName) with
      | void => rfl
      | text => simp only [htext hkind]
      | normal =>
          have hchildren : (dom.children (some id)).filterMap (dom.source? catalog) =
              (other.children (some twin)).filterMap (other.source? catalog) := by
            rw [filterMap_source? catalog (dom.children (some id)),
              filterMap_source? catalog (other.children (some twin))]
            exact filterMap_eq_of_forall₂ (hitems hkind) fun child hchild =>
              ih child (List.mem_filter.mp hchild).1
          simp only [hchildren]

/-! ## Source texts -/

/-- Nodes that are alike have forms. -/
theorem Alike.hasForm (h : Alike catalog dom other id twin) :
    dom.hasForm id = true ∧ other.hasForm twin = true := by
  rw [Dom.hasForm, Dom.hasForm, kind?_eq, kind?_eq]
  cases h with
  | text hpayload htwin | comment hpayload htwin | element hpayload htwin =>
      rw [hpayload, htwin]
      exact ⟨rfl, rfl⟩

/-- Nodes that are alike have the same source text. Nodes with the same source text have the same
tree, when all nodes that are treated keep clear of delimiters, so no difference that the tree shows
is ignored. The tree shows the constructors of attributes: names that share one are ignored too. -/
theorem WellFormed.render_ignores (h : dom.WellFormed) (hother : other.WellFormed)
    (catalog : Catalog) :
    (∀ id twin, Alike catalog dom other id twin →
      (dom.render catalog (some id)).content = (other.render catalog (some twin)).content) ∧
    ∀ id twin, dom.hasForm id = true → other.hasForm twin = true →
      (∀ below ∈ dom.reached catalog id, dom.ReadableNode catalog below) →
      (∀ below ∈ other.reached catalog twin, other.ReadableNode catalog below) →
      (dom.render catalog (some id)).content = (other.render catalog (some twin)).content →
      dom.source? catalog id = other.source? catalog twin := by
  constructor
  · intro id twin halike
    obtain ⟨hid, hform⟩ := exists_of_hasForm halike.hasForm.1
    obtain ⟨htwin, htwinForm⟩ := exists_of_hasForm halike.hasForm.2
    obtain ⟨tree, htree, hprint⟩ := h.exists_source? catalog hid hform
    obtain ⟨twinTree, htwinTree, htwinPrint⟩ := hother.exists_source? catalog htwin htwinForm
    have hsame := h.source?_eq_of_alike hother hid halike
    rw [htree, htwinTree, Option.some.injEq] at hsame
    rw [← String.toList_inj, hprint, htwinPrint, hsame]
  · intro id twin hform htwinForm hnodes htwinNodes hcontent
    obtain ⟨hid, hform⟩ := exists_of_hasForm hform
    obtain ⟨htwin, htwinForm⟩ := exists_of_hasForm htwinForm
    obtain ⟨tree, htree, hprint⟩ := h.exists_source? catalog hid hform
    obtain ⟨twinTree, htwinTree, htwinPrint⟩ := hother.exists_source? catalog htwin htwinForm
    have hreadable := h.readable_source hid hnodes htree
    have htwinReadable := hother.readable_source htwin htwinNodes htwinTree
    have hsame : tree.print = twinTree.print := by rw [← hprint, ← htwinPrint, hcontent]
    rw [htree, htwinTree, Source.print_injective hreadable htwinReadable hsame]

/-- A catalog with a boolean attribute, a variant, an element without content and one that takes a
string. -/
def noteCatalog : Catalog :=
  (((Catalog.empty.registerValues .boolean ["disabled"]).registerValues .poly ["dir"]).registerTags
    .void ["br"]).registerTags .text ["title"]

/-- The steps that make a paragraph with an instruction, a line break that has a comment below it,
and a title with part of its text in bold. -/
def wordySteps : List Step :=
  [.create (.element (.html "P") [.plain "disabled" "false", .plain "dir" "Left-to"]), .append 0 1,
    .create (.instruction "xml" ""), .append 1 2, .create (.element (.html "br") []), .append 1 3,
    .create (.comment "unseen"), .append 3 4, .create (.element (.html "title") []), .append 1 5,
    .appendText 5 "one ", .create (.element (.html "b") []), .append 5 7, .appendText 7 "two"]

/-- The steps that make the same paragraph with no more than is seen of it. -/
def terseSteps : List Step :=
  [.create (.element (.html "p") [.plain "disabled" "", .plain "dir" "LEFT_to"]), .append 0 1,
    .create (.element (.html "BR") []), .append 1 2, .create (.element (.html "Title") []),
    .append 1 3, .appendText 3 "one two"]

/-- The first document is built by valid steps. -/
theorem validRun_wordySteps : Dom.empty.ValidRun wordySteps :=
  validRun_of_check (by decide)

/-- The second document is built by valid steps. -/
theorem validRun_terseSteps : Dom.empty.ValidRun terseSteps :=
  validRun_of_check (by decide)

/-- An element of no more than a name. -/
def bareElement (name : String) : Option Payload :=
  some (.element (.html name) [])

/-- The two paragraphs are alike. -/
theorem alike_paragraphs :
    Alike noteCatalog (Dom.empty.run wordySteps) (Dom.empty.run terseSteps) 1 1 := by
  have hbreak : Alike noteCatalog (Dom.empty.run wordySteps) (Dom.empty.run terseSteps) 3 2 := by
    have hpayload : (Dom.empty.run wordySteps).payload? (some 3) = bareElement "br" := by decide
    have htwin : (Dom.empty.run terseSteps).payload? (some 2) = bareElement "BR" := by decide
    exact .element hpayload htwin (by decide) .nil (fun h => absurd h (by decide))
      (fun h => absurd h (by decide))
  have htitle : Alike noteCatalog (Dom.empty.run wordySteps) (Dom.empty.run terseSteps) 5 3 := by
    have hpayload : (Dom.empty.run wordySteps).payload? (some 5) = bareElement "title" := by decide
    have htwin : (Dom.empty.run terseSteps).payload? (some 3) = bareElement "Title" := by decide
    refine .element hpayload htwin (by decide) .nil (fun _ => ?_) (fun h => absurd h (by decide))
    rw [textContent, textContent, descendants_eq_preorder (by decide),
      descendants_eq_preorder (by decide)]
    decide
  have hpayload : (Dom.empty.run wordySteps).payload? (some 1) =
      some (.element (.html "P") [.plain "disabled" "false", .plain "dir" "Left-to"]) := by decide
  have htwin : (Dom.empty.run terseSteps).payload? (some 1) =
      some (.element (.html "p") [.plain "disabled" "", .plain "dir" "LEFT_to"]) := by decide
  refine .element hpayload htwin (by decide) ?_ (fun h => absurd h (by decide)) (fun _ => ?_)
  · have hdir : Literal.fold "Left-to" = Literal.fold "LEFT_to" := by decide +kernel
    exact .cons ⟨rfl, trivial⟩ (.cons ⟨rfl, hdir⟩ .nil)
  · have hchildren : ((Dom.empty.run wordySteps).children (some 1)).filter
        (Dom.empty.run wordySteps).hasForm = [3, 5] := by decide
    have htwins : ((Dom.empty.run terseSteps).children (some 1)).filter
        (Dom.empty.run terseSteps).hasForm = [2, 3] := by decide
    rw [hchildren, htwins]
    exact .cons hbreak (.cons htitle .nil)

/-- The two paragraphs have the same source text. -/
theorem render_ignores_paragraphs :
    let dom := Dom.empty.run wordySteps
    let other := Dom.empty.run terseSteps
    dom.WellFormed ∧ other.WellFormed ∧ Alike noteCatalog dom other 1 1 ∧
      (dom.render noteCatalog (some 1)).content = (other.render noteCatalog (some 1)).content := by
  intro dom other
  have hwell : dom.WellFormed := wellFormed_empty.run validRun_wordySteps
  have hother : other.WellFormed := wellFormed_empty.run validRun_terseSteps
  exact ⟨hwell, hother, alike_paragraphs,
    (hwell.render_ignores hother noteCatalog).1 1 1 alike_paragraphs⟩

end Dom

end HtmlTemplate
