import HtmlTemplate.Proofs.Rendering.Composition
import HtmlTemplate.Proofs.Rendering.Source

/-!
# Renderings and printed trees

The content of a rendering is the text of a tree, but for the children that do not exist: each of
them that is treated leaves an empty item, which no tree has (`Traversable.render_gapped`). In a
well-formed document there is none (`WellFormed.toList_content_render`).
-/

namespace HtmlTemplate

namespace Source

/-- The second text is the first with `count` empty items put in. -/
inductive Gapped : Nat → List Char → List Char → Prop where
  | nil : Gapped 0 [] []
  | char (c : Char) {count text gapped} (h : Gapped count text gapped) :
      Gapped count (c :: text) (c :: gapped)
  | gap {count text gapped} (h : Gapped count text gapped) :
      Gapped (count + 1) text ('\n' :: ';' :: gapped)

namespace Gapped

variable {count more : Nat} {text gapped other otherGapped : List Char}

/-- Every text has no gaps against itself. -/
theorem refl (text : List Char) : Gapped 0 text text := by
  induction text with
  | nil => exact .nil
  | cons c text ih => exact .char c ih

/-- Gaps add up where texts are put one behind the other. -/
theorem append (h : Gapped count text gapped) (hother : Gapped more other otherGapped) :
    Gapped (count + more) (text ++ other) (gapped ++ otherGapped) := by
  induction h with
  | nil => rwa [Nat.zero_add]
  | char c _ ih => exact .char c ih
  | gap _ ih =>
      rw [Nat.add_right_comm]
      exact .gap ih

/-- Text around leaves the number of gaps as it is. -/
theorem around (front back : List Char) (h : Gapped count text gapped) :
    Gapped count (front ++ text ++ back) (front ++ gapped ++ back) := by
  simpa using ((refl front).append h).append (refl back)

/-- Each gap takes two characters. -/
theorem length_eq (h : Gapped count text gapped) : gapped.length = text.length + 2 * count := by
  induction h with
  | nil => rfl
  | char c _ ih => rw [List.length_cons, List.length_cons, ih, Nat.add_right_comm]
  | gap _ ih =>
      rw [List.length_cons, List.length_cons, ih]
      omega

/-- Only without empty items is the text the same. -/
theorem eq_iff (h : Gapped count text gapped) : gapped = text ↔ count = 0 := by
  constructor
  · rintro rfl
    have hlength := h.length_eq
    omega
  · intro hcount
    induction h with
    | nil => rfl
    | char c _ ih => rw [ih hcount]
    | gap => cases hcount

end Gapped

end Source

namespace Dom

variable {catalog : Catalog} {dom : Dom} {id root : NodeId}

/-- How many of the nodes that are treated with `root` do not exist. -/
def missing (catalog : Catalog) (dom : Dom) (root : NodeId) : Nat :=
  (dom.treated catalog root).countP fun id => dom.size ≤ id

/-- How many of the nodes that are treated with several others do not exist. -/
def missingAmong (catalog : Catalog) (dom : Dom) (roots : List NodeId) : Nat :=
  (roots.flatMap (dom.treated catalog)).countP fun id => dom.size ≤ id

/-- No node is missing exactly when all nodes that are treated are there. -/
theorem missing_eq_zero_iff :
    dom.missing catalog root = 0 ↔ ∀ id ∈ dom.treated catalog root, id < dom.size := by
  rw [missing, List.countP_eq_zero]
  simp

/-- The nodes missing below several roots are counted root by root. -/
theorem missingAmong_cons (catalog : Catalog) (dom : Dom) (root : NodeId) (roots : List NodeId) :
    dom.missingAmong catalog (root :: roots) =
      dom.missing catalog root + dom.missingAmong catalog roots := by
  rw [missingAmong, List.flatMap_cons, List.countP_append]
  rfl

/-- Of a node that is no open element, only the node itself can be missing. -/
theorem Traversable.missing_of_closed (h : dom.Traversable)
    (hclosed : dom.isOpen catalog id = false) :
    dom.missing catalog id = if dom.size ≤ id then 1 else 0 := by
  rw [missing, h.treated_eq, hclosed, if_neg Bool.false_ne_true, List.countP_singleton]
  simp

/-- Below a node without a form nothing is missing, as it is not looked at. -/
theorem Traversable.missing_of_formless (h : dom.Traversable) {kind : Kind}
    (hform : dom.formless? id = some kind) : dom.missing catalog id = 0 := by
  obtain ⟨payload, hpayload, -, -⟩ := exists_payload_of_formless hform
  rw [h.missing_of_closed (isOpen_of_formless hform),
    if_neg (Nat.not_le.mpr (lt_of_payload? hpayload))]

/-- Of an open element, what is missing is missing among its children or below them. -/
theorem Traversable.missing_of_open (h : dom.Traversable) (hopen : dom.isOpen catalog id = true)
    (hid : id < dom.size) :
    dom.missing catalog id = dom.missingAmong catalog (dom.children (some id)) := by
  rw [missing, h.treated_eq, if_pos hopen, List.countP_cons_of_neg (by simpa using hid)]
  rfl

/-! ## Trees of nodes -/

/-- A node that does not exist has no tree. -/
theorem source?_of_missing (h : dom.size ≤ id) : dom.source? catalog id = none := by
  rw [source?, sourceWithin, payload?, get?_eq_none_iff.mpr h]
  rfl

/-- A node without a form has no tree. -/
theorem source?_of_formless {kind : Kind} (h : dom.formless? id = some kind) :
    dom.source? catalog id = none :=
  sourceWithin_of_formless h _

/-- A node that is not there is not open. -/
theorem isOpen_of_missing (h : dom.size ≤ id) : dom.isOpen catalog id = false := by
  rw [isOpen, payload?, get?_eq_none_iff.mpr h]
  rfl

/-- The nodes that have a tree are the elements, the texts and the comments. -/
theorem exists_source?_iff (catalog : Catalog) :
    (∃ tree, dom.source? catalog id = some tree) ↔ dom.hasForm id = true := by
  by_cases hid : id < dom.size
  · rw [hasForm_iff hid]
    constructor
    · rintro ⟨tree, htree⟩
      refine Option.eq_none_iff_forall_ne_some.mpr fun kind hform => ?_
      rw [source?, sourceWithin_of_formless hform] at htree
      cases htree
    · exact fun hform => exists_sourceWithin hid hform dom.size
  · have hge := Nat.not_lt.mp hid
    rw [source?_of_missing hge, hasForm, kind?_eq_none_iff.mpr hge]
    simp

/-- Children without a form add nothing to the tree of a node. -/
theorem filterMap_source? (catalog : Catalog) (children : List NodeId) :
    children.filterMap (dom.source? catalog) =
      (children.filter dom.hasForm).filterMap (dom.source? catalog) := by
  rw [List.filterMap_filter]
  refine List.filterMap_congr fun child _ => ?_
  by_cases hform : dom.hasForm child = true
  · rw [if_pos hform]
  · rw [if_neg hform]
    exact Option.eq_none_iff_forall_ne_some.mpr fun item hitem =>
      hform ((exists_source?_iff catalog).mp ⟨item, hitem⟩)

/-- Children that have a form have one tree each. -/
theorem forall₂_source? {children : List NodeId}
    (h : ∀ child ∈ children, dom.hasForm child = true) :
    List.Forall₂ (fun child item => dom.source? catalog child = some item) children
      (children.filterMap (dom.source? catalog)) := by
  induction children with
  | nil => exact .nil
  | cons child children ih =>
      obtain ⟨hchild, hchildren⟩ := List.forall_mem_cons.mp h
      obtain ⟨item, hitem⟩ := (exists_source?_iff catalog).mpr hchild
      rw [List.filterMap_cons_some hitem]
      exact .cons hitem (ih hchildren)

/-- The tree of an element that takes a list has the trees of its children as items. -/
theorem Traversable.source?_of_list (h : dom.Traversable) {name : QualifiedName}
    {attributes : List Attribute}
    (hpayload : dom.payload? (some id) = some (.element name attributes))
    (hkind : catalog.tagKind (Ascii.lower name.localName) = .normal) :
    dom.source? catalog id = some (.list (Ascii.lower name.localName)
      (attributes.map (attributeSource catalog))
      ((dom.children (some id)).filterMap (dom.source? catalog))) := by
  rw [h.source?_eq, hpayload, Option.bind_some, payloadSource]
  simp only [hkind]

/-- The items of an element are the trees of its children, and then it is an open one. -/
theorem exists_child_of_mem_items {payload : Payload} {tree item : Source}
    (hpayload : dom.payload? (some id) = some payload)
    (hsource : dom.payloadSource catalog (dom.source? catalog) id payload = some tree)
    (hitem : item ∈ tree.items) :
    ∃ child, dom.isOpen catalog id = true ∧ child ∈ dom.children (some id) ∧
      dom.source? catalog child = some item := by
  cases payload with
  | element name attributes =>
      rw [payloadSource] at hsource
      cases htag : catalog.tagKind (Ascii.lower name.localName) with
      | void | text =>
          simp only [htag, Option.some.injEq] at hsource
          rw [← hsource] at hitem
          cases hitem
      | normal =>
          simp only [htag, Option.some.injEq] at hsource
          rw [← hsource] at hitem
          obtain ⟨child, hchild, hitem⟩ := List.mem_filterMap.mp hitem
          exact ⟨child, by simp [isOpen, hpayload, htag], hchild, hitem⟩
  | text | comment =>
      cases hsource
      cases hitem
  | _ => cases hsource

/-- A property that the tree of a treated node has when its items have it holds of the tree of the
root. -/
theorem Traversable.source?_induction {motive : Source → Prop} (h : dom.Traversable)
    (step : ∀ id ∈ dom.treated catalog root, ∀ payload, dom.payload? (some id) = some payload →
      ∀ tree, dom.payloadSource catalog (dom.source? catalog) id payload = some tree →
        (∀ item ∈ tree.items, motive item) → motive tree)
    {tree : Source} (htree : dom.source? catalog root = some tree) : motive tree := by
  have hall : ∀ id, (∀ below ∈ dom.treated catalog id, below ∈ dom.treated catalog root) →
      ∀ tree, dom.source? catalog id = some tree → motive tree := by
    intro id
    refine h.induction_on (motive := fun id =>
      (∀ below ∈ dom.treated catalog id, below ∈ dom.treated catalog root) →
        ∀ tree, dom.source? catalog id = some tree → motive tree) id ?_
    intro id ih htreated tree htree
    rw [h.source?_eq] at htree
    obtain ⟨payload, hpayload, hsource⟩ := Option.bind_eq_some_iff.mp htree
    refine step id (htreated id (h.mem_treated_self id)) payload hpayload tree hsource ?_
    intro item hitem
    obtain ⟨child, hopen, hchild, hitem⟩ := exists_child_of_mem_items hpayload hsource hitem
    exact ih child hchild
      (fun below hbelow => htreated below (h.mem_treated_of_child hopen hchild hbelow)) item hitem
  exact hall root (fun _ hbelow => hbelow) tree htree

/-! ## The content of a rendering -/

/-- What is written of a node that is no open element is the text of its tree. -/
theorem toList_content_of_closed (hclosed : dom.isOpen catalog id = false) {tree : Source}
    (htree : dom.source? catalog id = some tree) :
    (dom.render catalog (some id)).content.toList = tree.print := by
  obtain ⟨payload, hpayload, hsource⟩ := Option.bind_eq_some_iff.mp htree
  show (dom.write catalog (dom.size + 1) id .empty).content.toList = _
  rw [write, hpayload]
  cases payload with
  | element name attributes =>
      rw [payloadSource] at hsource
      cases htag : catalog.tagKind (Ascii.lower name.localName) with
      | void =>
          simp only [htag, Option.some.injEq] at hsource ⊢
          rw [← hsource, toList_content_pushHeader, Source.print]
          simp [Rendering.empty]
      | text =>
          simp only [htag, Option.some.injEq] at hsource ⊢
          rw [← hsource, Rendering.pushText_eq, Rendering.push, String.toList_append,
            toList_content_pushHeader, Source.print]
          simp [Rendering.empty]
      | normal => simp [isOpen, hpayload, htag] at hclosed
  | text content | comment content =>
      cases hsource
      simp [Source.print, Source.printText, Rendering.pushText_eq, Rendering.push, Rendering.empty]
  | _ => cases hsource

/-- The items of an element are those of its children that have a tree, with an empty one for each
child that does not exist. -/
theorem Traversable.items_gapped (h : dom.Traversable) {children : List NodeId}
    (hchildren : ∀ child ∈ children, ∀ tree, dom.source? catalog child = some tree →
      Source.Gapped (dom.missing catalog child) tree.print
        (dom.render catalog (some child)).content.toList) :
    Source.Gapped (dom.missingAmong catalog children)
      (Source.printItems (children.filterMap (dom.source? catalog)))
      (String.join (children.map (dom.itemText catalog))).toList := by
  induction children with
  | nil => exact .nil
  | cons child children ih =>
      have hrest := ih fun child hchild => hchildren child (List.mem_cons_of_mem _ hchild)
      rw [missingAmong_cons, List.map_cons, String.join_cons, String.toList_append]
      by_cases hchild : child < dom.size
      · cases hform : dom.formless? child with
        | some kind =>
            rw [List.filterMap_cons_none (source?_of_formless hform),
              itemText_of_formless hform, h.missing_of_formless hform, Nat.zero_add]
            exact hrest
        | none =>
            have hhas := (hasForm_iff hchild).mpr hform
            obtain ⟨tree, htree⟩ := (exists_source?_iff catalog).mpr hhas
            have hitem := (hchildren child List.mem_cons_self tree htree).around ['\n'] [';']
            rw [List.filterMap_cons_some htree, itemText_of_lt hchild, if_pos hhas,
              Source.printItems]
            simpa using hitem.append hrest
      · have hge := Nat.not_lt.mp hchild
        rw [List.filterMap_cons_none (source?_of_missing hge), itemText_of_missing hge,
          h.missing_of_closed (isOpen_of_missing hge), if_pos hge, Nat.add_comm]
        exact .gap hrest

/-- The content of the rendering of a node is the text of its tree, with an empty item for each time
that a node that does not exist is treated. -/
theorem Traversable.render_gapped (h : dom.Traversable) (catalog : Catalog) {tree : Source}
    (htree : dom.source? catalog root = some tree) :
    Source.Gapped (dom.missing catalog root) tree.print
      (dom.render catalog (some root)).content.toList := by
  refine h.induction_on (motive := fun root => ∀ tree, dom.source? catalog root = some tree →
    Source.Gapped (dom.missing catalog root) tree.print
      (dom.render catalog (some root)).content.toList) root ?_ tree htree
  intro id ih tree htree
  have hid : id < dom.size :=
    (exists_of_hasForm ((exists_source?_iff catalog).mp ⟨tree, htree⟩)).1
  by_cases hopen : dom.isOpen catalog id = true
  · obtain ⟨name, attributes, hpayload, hkind⟩ := exists_of_isOpen hopen
    rw [h.source?_of_list hpayload hkind, Option.some.injEq] at htree
    rw [← htree, h.content_render_list hpayload hkind, h.missing_of_open hopen hid, Source.print]
    have hitems := (h.items_gapped ih).around
      (Source.printHeader (Ascii.lower name.localName)
        (attributes.map (attributeSource catalog)) ++ ['[']) [']']
    simpa [toList_header] using hitems
  · rw [Bool.not_eq_true] at hopen
    rw [toList_content_of_closed hopen htree, h.missing_of_closed hopen,
      if_neg (Nat.not_le.mpr hid)]
    exact .refl _

/-- The content of the rendering of a node of a well-formed document is the text of its tree. -/
theorem WellFormed.toList_content_render (h : dom.WellFormed) (hroot : root < dom.size)
    {tree : Source} (htree : dom.source? catalog root = some tree) :
    (dom.render catalog (some root)).content.toList = tree.print := by
  refine (h.traversable.render_gapped catalog htree).eq_iff.mpr (missing_eq_zero_iff.mpr ?_)
  intro id hid
  rw [h.treated_eq catalog hroot, h.mem_reached hroot] at hid
  exact lt_of_within hroot hid.1

/-- The content of the rendering of a node that has a form is the text of its tree. -/
theorem WellFormed.exists_source? (h : dom.WellFormed) (catalog : Catalog) (hroot : root < dom.size)
    (hform : dom.formless? root = none) :
    ∃ tree, dom.source? catalog root = some tree ∧
      (dom.render catalog (some root)).content.toList = tree.print := by
  obtain ⟨tree, htree⟩ : ∃ tree, dom.source? catalog root = some tree :=
    exists_sourceWithin hroot hform dom.size
  exact ⟨tree, htree, h.toList_content_render hroot htree⟩

end Dom

end HtmlTemplate
