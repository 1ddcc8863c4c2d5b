import HtmlTemplate.Proofs.Rendering.Grammar
import HtmlTemplate.Proofs.Rendering.ReadBack

/-!
# Renderings of documents with dangling links

A child link may name a node that does not exist. An item of an element's list is left out when its
child has no form, but a child that does not exist is not seen to have none: its item is a line with
nothing on it. So a rendering is what the grammar of the template language asks for, with one item
for each child that is an element, a text or a comment, exactly if no node that is treated is
missing (`Traversable.render_dangling`). With names and values that keep clear of delimiters, no
tree has the text of any other rendering (`Traversable.exists_readable_iff`).
-/

namespace HtmlTemplate

open Source (IsName IsExpression)

namespace Dom

/-- The tag of an element and the names of its attributes are names. -/
def NamedPayload : Payload → Prop
  | .element name attributes =>
      IsName (Ascii.lower name.localName) ∧ ∀ attr ∈ attributes, IsName attr.qualifiedName
  | .text _ | .comment _ | .document | .fragment | .doctype .. | .instruction .. => True

instance : DecidablePred NamedPayload
  | .element .. => inferInstanceAs (Decidable (_ ∧ _))
  | .text _ | .comment _ | .document | .fragment | .doctype .. | .instruction .. =>
      inferInstanceAs (Decidable True)

/-- If the node is an element, its tag and the names of its attributes are names. -/
def NamedNode (dom : Dom) (id : NodeId) : Prop :=
  ∀ payload ∈ dom.payload? (some id), NamedPayload payload

instance (dom : Dom) : DecidablePred dom.NamedNode :=
  fun _ => inferInstanceAs (Decidable (∀ payload ∈ _, _))

variable {catalog : Catalog} {dom : Dom} {id root : NodeId}

/-! ## The tree of a node -/

/-- The tree of a node is one that the grammar gives when all names that are written are names. -/
theorem Traversable.grammatical_source (h : dom.Traversable)
    (hnames : ∀ id ∈ dom.treated catalog root, dom.NamedNode id) {tree : Source}
    (htree : dom.source? catalog root = some tree) : tree.Grammatical catalog := by
  refine h.source?_induction (motive := Source.Grammatical catalog) ?_ htree
  intro id hid payload hpayload tree hsource hitems
  have hself : NamedPayload payload := hnames id hid payload hpayload
  cases payload with
  | element name attributes =>
      obtain ⟨htag, hattributes⟩ := hself
      have hexpressions : ∀ pair ∈ attributes.map (attributeSource catalog),
          IsExpression pair.1 := by
        intro pair hpair
        obtain ⟨attr, hattr, rfl⟩ := List.mem_map.mp hpair
        exact Constructor.isExpression_ofName catalog (hattributes attr hattr)
      rw [payloadSource] at hsource
      cases hkind : catalog.tagKind (Ascii.lower name.localName) with
      | void =>
          simp only [hkind, Option.some.injEq] at hsource
          exact hsource ▸ .void htag hkind hexpressions
      | text =>
          simp only [hkind, Option.some.injEq] at hsource
          exact hsource ▸ .flat _ htag hkind hexpressions
      | normal =>
          simp only [hkind, Option.some.injEq] at hsource
          subst hsource
          exact .list htag hkind hexpressions hitems
  | text content =>
      cases hsource
      exact .text content
  | comment content =>
      cases hsource
      exact .comment content
  | _ => cases hsource

/-- The tree of an element that takes a list has one item for each child that is an element, a text
or a comment, in order. -/
theorem Traversable.source?_list (h : dom.Traversable) {name : QualifiedName}
    {attributes : List Attribute}
    (hpayload : dom.payload? (some id) = some (.element name attributes))
    (htag : catalog.tagKind (Ascii.lower name.localName) = .normal) :
    ∃ items, dom.source? catalog id = some (.list (Ascii.lower name.localName)
        (attributes.map (attributeSource catalog)) items) ∧
      List.Forall₂ (fun child item => dom.source? catalog child = some item)
        ((dom.children (some id)).filter dom.hasForm) items := by
  refine ⟨_, h.source?_of_list hpayload htag, ?_⟩
  rw [filterMap_source?]
  exact forall₂_source? fun _ hchild => (List.mem_filter.mp hchild).2

/-! ## Reading -/

/-- Where a child is missing among or below the children of an element, their items are not read to
the end. -/
theorem Traversable.readMany_missing (h : dom.Traversable) {children : List NodeId} {limit : Nat}
    (hread : ∀ child ∈ children, ∀ tree, dom.source? catalog child = some tree →
      dom.missing catalog child = 0 → ∀ rest,
        Source.readNode catalog limit ((dom.render catalog (some child)).content.toList ++ rest) =
          some (tree, rest))
    (hfail : ∀ child ∈ children, dom.hasForm child = true → dom.missing catalog child ≠ 0 →
      ∀ rest, Source.readNode catalog limit
        ((dom.render catalog (some child)).content.toList ++ rest) = none)
    (hmissing : dom.missingAmong catalog children ≠ 0) (count : Nat) (rest : List Char) :
    Source.readMany [']'] (Source.readItem (Source.readNode catalog limit)) count
      ((String.join (children.map (dom.itemText catalog))).toList ++ rest) = none := by
  induction children generalizing count with
  | nil => exact absurd rfl hmissing
  | cons child children ih =>
      have hrest := ih (fun child hchild => hread child (List.mem_cons_of_mem _ hchild))
        (fun child hchild => hfail child (List.mem_cons_of_mem _ hchild))
      rw [missingAmong_cons] at hmissing
      rw [List.map_cons, String.join_cons, String.toList_append, List.append_assoc]
      by_cases hchild : child < dom.size
      · by_cases hform : dom.hasForm child = true
        · have hwrite : (dom.itemText catalog child).toList =
              '\n' :: (dom.render catalog (some child)).content.toList ++ [';'] := by
            rw [itemText_of_lt hchild, if_pos hform]
            simp
          rw [hwrite, List.cons_append, List.cons_append, List.append_assoc,
            List.singleton_append]
          by_cases hzero : dom.missing catalog child = 0
          · rw [hzero, Nat.zero_add] at hmissing
            obtain ⟨tree, htree⟩ := (exists_source?_iff catalog).mpr hform
            cases count with
            | zero => rfl
            | succ count =>
                rw [Source.readMany_item (hread child List.mem_cons_self tree htree hzero _),
                  hrest hmissing]
                rfl
          · exact Source.readMany_item_none (hfail child List.mem_cons_self hform hzero _) count
        · rw [itemText_of_lt hchild, if_neg hform]
          rw [hasForm_iff hchild] at hform
          obtain ⟨kind, hkind⟩ := Option.ne_none_iff_exists'.mp hform
          rw [h.missing_of_formless hkind, Nat.zero_add] at hmissing
          exact hrest hmissing count
      · rw [itemText_of_missing (Nat.not_lt.mp hchild)]
        exact Source.readMany_item_none (Source.readNode_semicolon catalog limit _) count

/-- The text of an item is part of the texts of all items. -/
theorem length_itemText_le (catalog : Catalog) (dom : Dom) {children : List NodeId}
    {child : NodeId} (h : child ∈ children) :
    (dom.itemText catalog child).length ≤
      (String.join (children.map (dom.itemText catalog))).length := by
  induction children with
  | nil => cases h
  | cons head children ih =>
      rw [List.map_cons, String.join_cons, String.length_append]
      rcases List.mem_cons.mp h with rfl | h
      · exact Nat.le_add_right _ _
      · exact Nat.le_add_left_of_le (ih h)

/-- The rendering of an item is shorter than that of its list. -/
theorem Traversable.length_render_lt (h : dom.Traversable) {child : NodeId}
    (hopen : dom.isOpen catalog id = true) (hchild : child ∈ dom.children (some id))
    (hform : dom.hasForm child = true) :
    (dom.render catalog (some child)).content.length <
      (dom.render catalog (some id)).content.length := by
  obtain ⟨name, attributes, hpayload, hkind⟩ := exists_of_isOpen hopen
  have hle := length_itemText_le catalog dom hchild
  have hopening : "[".length = 1 := rfl
  rw [itemText_of_lt (exists_of_hasForm hform).1, if_pos hform, String.length_append,
    String.length_append] at hle
  rw [h.content_render_list hpayload hkind]
  simp only [String.length_append]
  omega

/-- A rendering that treats only nodes that exist and keep clear of delimiters is read back. -/
theorem Traversable.readNode_render (h : dom.Traversable)
    (hnodes : ∀ id ∈ dom.treated catalog root, dom.ReadableNode catalog id) {tree : Source}
    (htree : dom.source? catalog root = some tree) (hzero : dom.missing catalog root = 0)
    {limit : Nat} (hlimit : (dom.render catalog (some root)).content.length < limit)
    (rest : List Char) :
    Source.readNode catalog limit ((dom.render catalog (some root)).content.toList ++ rest) =
      some (tree, rest) := by
  have hprint := (h.render_gapped catalog htree).eq_iff.mpr hzero
  rw [← String.length_toList, hprint] at hlimit
  rw [hprint]
  exact Source.readNode_print (h.readable_source hnodes htree) hlimit rest

/-- A rendering that treats a node that does not exist is not read, when the nodes that do exist
keep clear of delimiters. -/
theorem Traversable.readNode_missing (h : dom.Traversable) (hform : dom.hasForm root = true)
    (hnodes : ∀ id ∈ dom.treated catalog root, dom.ReadableNode catalog id)
    (hmissing : dom.missing catalog root ≠ 0) {limit : Nat}
    (hlimit : (dom.render catalog (some root)).content.length < limit) (rest : List Char) :
    Source.readNode catalog limit ((dom.render catalog (some root)).content.toList ++ rest) =
      none := by
  refine h.induction_on (motive := fun root => dom.hasForm root = true →
    (∀ id ∈ dom.treated catalog root, dom.ReadableNode catalog id) →
      dom.missing catalog root ≠ 0 → ∀ limit,
        (dom.render catalog (some root)).content.length < limit → ∀ rest,
          Source.readNode catalog limit
            ((dom.render catalog (some root)).content.toList ++ rest) = none)
    root ?_ hform hnodes hmissing limit hlimit rest
  intro id ih hform hnodes hmissing limit hlimit rest
  have hid : id < dom.size := (exists_of_hasForm hform).1
  have hopen : dom.isOpen catalog id = true := by
    by_contra hclosed
    rw [Bool.not_eq_true] at hclosed
    rw [h.missing_of_closed hclosed, if_neg (Nat.not_le.mpr hid)] at hmissing
    exact hmissing rfl
  have hbelow : ∀ child ∈ dom.children (some id), ∀ below ∈ dom.treated catalog child,
      dom.ReadableNode catalog below :=
    fun child hchild below hbelow => hnodes below (h.mem_treated_of_child hopen hchild hbelow)
  obtain ⟨name, attributes, hpayload, hkind⟩ := exists_of_isOpen hopen
  obtain ⟨htag, hattributes, -⟩ := hnodes id (h.mem_treated_self id) _ hpayload
  rw [h.missing_of_open hopen hid] at hmissing
  cases limit with
  | zero => exact absurd hlimit (Nat.not_lt_zero _)
  | succ limit =>
      have hshorter : ∀ child ∈ dom.children (some id), dom.hasForm child = true →
          (dom.render catalog (some child)).content.length < limit := fun child hchild hform =>
        Nat.lt_of_lt_of_le (h.length_render_lt hopen hchild hform) (Nat.le_of_lt_succ hlimit)
      have htext : (dom.render catalog (some id)).content.toList ++ rest =
          Source.printHeader (Ascii.lower name.localName)
              (attributes.map (attributeSource catalog)) ++
            '[' :: ((String.join ((dom.children (some id)).map (dom.itemText catalog))).toList ++
              ']' :: rest) := by
        rw [h.content_render_list hpayload hkind]
        simp [toList_header]
      rw [htext]
      refine Source.readNode_list_none htag hkind (readable_attributes hattributes) fun count => ?_
      -- Children that nothing is missing below are read, up to the first one that is not.
      refine h.readMany_missing ?_ ?_ hmissing count _
      · intro child hchild tree htree hzero
        have hshort := hshorter child hchild ((exists_source?_iff catalog).mp ⟨tree, htree⟩)
        exact h.readNode_render (hbelow child hchild) htree hzero hshort
      · intro child hchild hform hmissing
        exact ih child hchild hform (hbelow child hchild) hmissing limit
          (hshorter child hchild hform)

/-- When the nodes that are treated keep clear of delimiters, the rendering is the text of a tree
that is read back exactly if all of them exist. -/
theorem Traversable.exists_readable_iff (h : dom.Traversable) (hform : dom.hasForm root = true)
    (hnodes : ∀ id ∈ dom.treated catalog root, dom.ReadableNode catalog id) :
    (∃ tree, Source.Readable catalog tree ∧
        tree.print = (dom.render catalog (some root)).content.toList) ↔
      ∀ id ∈ dom.treated catalog root, id < dom.size := by
  rw [← missing_eq_zero_iff]
  constructor
  · rintro ⟨tree, htree, hprint⟩
    by_contra hmissing
    have hread := Source.readNode_print htree (Nat.lt_succ_self tree.print.length) []
    have hlimit : (dom.render catalog (some root)).content.length < tree.print.length + 1 := by
      rw [hprint, String.length_toList]
      exact Nat.lt_succ_self _
    rw [hprint, h.readNode_missing hform hnodes hmissing (hprint ▸ hlimit)] at hread
    cases hread
  · intro hzero
    obtain ⟨tree, htree⟩ := (exists_source?_iff catalog).mpr hform
    exact ⟨tree, h.readable_source hnodes htree,
      ((h.render_gapped catalog htree).eq_iff.mpr hzero).symm⟩

/-! ## Renderings with missing nodes -/

/-- When names are names, the rendering of an element, a text or a comment is the text of a tree
that the grammar gives, with one item for each child that has a form, but for an empty item for each
node that is treated and does not exist. So it is the text of that tree exactly if there is none;
with strings and values that keep clear of delimiters, no other tree has the text either. -/
theorem Traversable.render_dangling (h : dom.Traversable) (catalog : Catalog)
    (hkind : dom.kind? (some root) = some .element ∨ dom.kind? (some root) = some .text ∨
      dom.kind? (some root) = some .comment)
    (hnames : ∀ id ∈ dom.treated catalog root, dom.NamedNode id) :
    (∃ tree, dom.source? catalog root = some tree ∧ tree.Grammatical catalog ∧
      Source.Gapped (dom.missing catalog root) tree.print
        (dom.render catalog (some root)).content.toList ∧
      ((dom.render catalog (some root)).content.toList = tree.print ↔
        ∀ id ∈ dom.treated catalog root, id < dom.size)) ∧
    ((∀ id ∈ dom.treated catalog root, dom.ReadableNode catalog id) →
      ((∃ tree, Source.Readable catalog tree ∧
          tree.print = (dom.render catalog (some root)).content.toList) ↔
        ∀ id ∈ dom.treated catalog root, id < dom.size)) ∧
    ∀ id ∈ dom.treated catalog root, ∀ name attributes,
      dom.payload? (some id) = some (.element name attributes) →
      catalog.tagKind (Ascii.lower name.localName) = .normal →
      ∃ children items,
        Follows (fun child => dom.nextSibling (some child)) (dom.firstChild (some id)) children ∧
        dom.source? catalog id = some (.list (Ascii.lower name.localName)
          (attributes.map (attributeSource catalog)) items) ∧
        List.Forall₂ (fun child item => dom.source? catalog child = some item)
          (children.filter dom.hasForm) items ∧
        (dom.render catalog (some id)).content =
          Rendering.header catalog (Ascii.lower name.localName) attributes ++ "[" ++
            String.join (children.map (dom.itemText catalog)) ++ "]" := by
  have hform : dom.hasForm root = true := by
    rw [hasForm]
    rcases hkind with hkind | hkind | hkind <;> rw [hkind] <;> rfl
  refine ⟨?_, h.exists_readable_iff hform, fun id _ name attributes hpayload htag => ?_⟩
  · obtain ⟨tree, htree⟩ := (exists_source?_iff catalog).mpr hform
    have hgapped := h.render_gapped catalog htree
    exact ⟨tree, htree, h.grammatical_source hnames htree, hgapped,
      hgapped.eq_iff.trans missing_eq_zero_iff⟩
  · obtain ⟨items, hitems, hforms⟩ := h.source?_list hpayload htag
    exact ⟨dom.children (some id), items, h.follows_children id, hitems, hforms,
      h.content_render_list hpayload htag⟩

/-- The steps that make a list of an item and a node that does not exist. -/
def danglingListSteps : List Step :=
  [.create (.element (.html "UL") [.plain "class" "a"]), .create (.element (.html "li") []),
    .append 1 2, .append 1 9]

/-- The list is written with an empty item at its end, and is not the text of its tree. -/
theorem render_dangling_list :
    let dom := Dom.empty.run danglingListSteps
    dom.Traversable ∧ dom.kind? (some 1) = some .element ∧
      (∀ id ∈ dom.treated Catalog.empty 1, dom.NamedNode id) ∧
      (dom.render Catalog.empty (some 1)).content = "ul [class \"a\"; ] [\nli [] [];\n;]" ∧
      ∃ tree, dom.source? Catalog.empty 1 = some tree ∧ tree.Grammatical Catalog.empty ∧
        Source.Gapped 1 tree.print (dom.render Catalog.empty (some 1)).content.toList ∧
        (dom.render Catalog.empty (some 1)).content.toList ≠ tree.print := by
  intro dom
  have hforward : dom.Forward := by decide
  have hkind : dom.kind? (some 1) = some .element := by decide
  have htreated : dom.treated Catalog.empty 1 = [1, 2, 9] := by decide
  have hnames : ∀ id ∈ dom.treated Catalog.empty 1, dom.NamedNode id := by
    rw [htreated]
    decide
  have hmissing : dom.missing Catalog.empty 1 = 1 := by
    rw [missing, htreated]
    decide
  obtain ⟨⟨tree, htree, hgrammar, hgapped, hiff⟩, -, -⟩ :=
    hforward.traversable.render_dangling Catalog.empty (Or.inl hkind) hnames
  rw [hmissing] at hgapped
  refine ⟨hforward.traversable, hkind, hnames, by decide, tree, htree, hgrammar, hgapped, ?_⟩
  rw [Ne, hiff, htreated]
  decide

/-- The steps that make a paragraph of a node that does not exist. -/
def danglingSteps : List Step :=
  [.create (.element (.html "p") []), .append 1 7]

/-- The paragraph is written as an element with an empty item, which no grammatical tree is. -/
theorem render_dangling_paragraph :
    let dom := Dom.empty.run danglingSteps
    dom.Traversable ∧ dom.kind? (some 1) = some .element ∧
      (∀ id ∈ dom.treated Catalog.empty 1, dom.NamedNode id) ∧
      (dom.render Catalog.empty (some 1)).content = "p [] [\n;]" ∧
      ¬ ∃ tree, Source.Grammatical Catalog.empty tree ∧
        tree.print = (dom.render Catalog.empty (some 1)).content.toList := by
  intro dom
  have hforward : dom.Forward := by decide
  have htreated : dom.treated Catalog.empty 1 = [1, 7] := by decide
  have hnames : ∀ id ∈ dom.treated Catalog.empty 1, dom.NamedNode id := by
    rw [htreated]
    decide
  have hcontent : (dom.render Catalog.empty (some 1)).content = "p [] [\n;]" := by decide
  refine ⟨hforward.traversable, by decide, hnames, hcontent, ?_⟩
  rw [hcontent]
  rintro ⟨tree, htree, hprint⟩
  have hname : IsName "p" := ⟨by decide, by decide⟩
  exact htree.print_ne hname [']'] hprint

end Dom

end HtmlTemplate
