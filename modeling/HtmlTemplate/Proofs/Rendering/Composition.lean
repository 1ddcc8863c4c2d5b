import HtmlTemplate.Proofs.Rendering.Visits

/-!
# Renderings put together from renderings

A rendering only grows at its end, and nothing that is written looks at what is there. So writing a
node is putting its own rendering behind what came before (`write_eq_append`), and an element with a
list of nodes is its header and the renderings of its children, one after the other. The main
statement, `WellFormed.render_composes`, says both of the renderings of a well-formed document,
where the room that a child has below it does not matter (`Fits.write_eq`).
-/

namespace HtmlTemplate

namespace Rendering

/-- One rendering behind another. -/
def append (out more : Rendering) : Rendering where
  content := out.content ++ more.content
  skipped := out.skipped ++ more.skipped
  notices := out.notices ++ more.notices

instance : Append Rendering := ⟨append⟩

/-- Renderings one after the other. -/
def join (parts : List Rendering) : Rendering :=
  parts.foldr (· ++ ·) empty

variable (out more : Rendering)

/-- `++` puts renderings one behind the other. -/
theorem append_def : out ++ more = out.append more := rfl

/-- The content of two renderings is that of the first, and behind it that of the second. -/
@[simp] theorem content_append : (out ++ more).content = out.content ++ more.content := rfl

/-- Two renderings leave out what the first leaves out, and then what the second does. -/
@[simp] theorem skipped_append : (out ++ more).skipped = out.skipped ++ more.skipped := rfl

/-- It makes no difference which of three renderings are put together first. -/
theorem append_assoc (last : Rendering) : out ++ more ++ last = out ++ (more ++ last) := by
  simp [append_def, append, String.append_assoc]

/-- Nothing behind a rendering leaves it as it is. -/
@[simp] theorem append_empty : out ++ empty = out := by
  simp [append_def, append, empty]

/-- Nothing before a rendering leaves it as it is. -/
@[simp] theorem empty_append : empty ++ out = out := by
  simp [append_def, append, empty]

/-- Source text is added to the last rendering. -/
theorem push_append (text : String) : (out ++ more).push text = out ++ more.push text := by
  simp [append_def, append, push, String.append_assoc]

/-- A string literal is added to the last rendering. -/
theorem pushText_append (text : String) :
    (out ++ more).pushText text = out ++ more.pushText text := by
  rw [pushText_eq, pushText_eq, push_append]

/-- The name and the attributes of an element are added to the last rendering. -/
theorem pushHeader_append (catalog : Catalog) (tag : String) (attributes : List Attribute) :
    (out ++ more).pushHeader catalog tag attributes =
      out ++ more.pushHeader catalog tag attributes := by
  rw [pushHeader_eq, pushHeader_eq, push_append]

/-- A notice is added to the last rendering. -/
theorem note_append (notice : Notice) : (out ++ more).note notice = out ++ more.note notice := by
  simp [append_def, append, note]

/-- A node that is left out is listed in the last rendering. -/
theorem skip_append (id : NodeId) (kind : Kind) :
    (out ++ more).skip id kind = out ++ more.skip id kind := by
  simp [append_def, append, skip]

/-- The content of joined renderings is their contents in order. -/
@[simp] theorem content_join (parts : List Rendering) :
    (join parts).content = String.join (parts.map (·.content)) := by
  induction parts with
  | nil => rfl
  | cons part parts ih =>
      rw [List.map_cons, String.join_cons, ← ih]
      rfl

/-- Joined renderings leave out what each of them leaves out, in order. -/
@[simp] theorem skipped_join (parts : List Rendering) :
    (join parts).skipped = parts.flatMap (·.skipped) := by
  induction parts with
  | nil => rfl
  | cons part parts ih =>
      rw [List.flatMap_cons, ← ih]
      rfl

end Rendering

namespace Dom

/-- Whether a node is an element, a text or a comment. -/
def hasForm (dom : Dom) (id : NodeId) : Bool :=
  (dom.kind? (some id)).any (·.hasForm)

variable {catalog : Catalog} {dom : Dom} {id root : NodeId}

/-! ## What is written does not depend on what is there -/

/-- What an event does, it does to the last rendering. -/
theorem perform_append (out more : Rendering) (event : Event) :
    dom.perform catalog (out ++ more) event = out ++ dom.perform catalog more event := by
  cases event with
  | visit id =>
      simp only [perform]
      cases dom.payload? (some id) with
      | none => exact Rendering.note_append ..
      | some payload =>
          cases payload with
          | element name attributes =>
              cases htag : catalog.tagKind (Ascii.lower name.localName) with
              | void =>
                  simp only [htag]
                  exact Rendering.pushHeader_append ..
              | text =>
                  simp only [htag]
                  rw [Rendering.pushHeader_append, Rendering.pushText_append]
              | normal =>
                  simp only [htag]
                  rw [Rendering.pushHeader_append, Rendering.push_append]
          | text | comment =>
              dsimp only
              rw [Rendering.push_append, Rendering.pushText_append]
          | document | fragment | doctype | instruction => exact Rendering.skip_append ..
  | line | stop | close => exact Rendering.push_append ..

/-- Writing a node adds, behind what is there, what it is written as on its own. -/
theorem write_append (levels : Nat) (id : NodeId) (out more : Rendering) :
    dom.write catalog levels id (out ++ more) = out ++ dom.write catalog levels id more := by
  rw [write_eq_perform, write_eq_perform]
  induction dom.events catalog levels id generalizing more with
  | nil => rfl
  | cons event events ih => rw [List.foldl_cons, perform_append, ih, List.foldl_cons]

/-- Writing a node adds the same to every rendering, namely what it makes of the empty one. -/
theorem write_eq_append (levels : Nat) (id : NodeId) (out : Rendering) :
    dom.write catalog levels id out = out ++ dom.write catalog levels id .empty := by
  rw [← write_append, Rendering.append_empty]

/-- Room for more levels than a node has below it does not change what is written. -/
theorem Fits.write_eq {levels more : Nat} (h : dom.Fits levels id) (hle : levels ≤ more)
    (out : Rendering) : dom.write catalog more id out = dom.write catalog levels id out := by
  rw [write_eq_perform, write_eq_perform, h.events_eq hle]

/-! ## Elements with a list of nodes -/

/-- The items of an element are written one after the other. -/
theorem foldl_writeItem_eq_append {writeChild : NodeId → Rendering → Rendering}
    (h : ∀ child out, writeChild child out = out ++ writeChild child .empty)
    (children : List NodeId) (out : Rendering) :
    children.foldl (dom.writeItem writeChild) out =
      out ++ Rendering.join (children.map (dom.writeItem writeChild .empty)) := by
  -- One item goes behind what is there, whether it is left out or written.
  have hitem : ∀ child out,
      dom.writeItem writeChild out child = out ++ dom.writeItem writeChild .empty child := by
    intro child out
    rw [writeItem, writeItem]
    cases dom.formless? child with
    | some kind =>
        show out.skip child kind = out ++ Rendering.empty.skip child kind
        rw [← Rendering.skip_append, Rendering.append_empty]
    | none =>
        show (writeChild child (out.push "\n")).push ";" =
          out ++ (writeChild child (Rendering.empty.push "\n")).push ";"
        rw [h, h child (Rendering.empty.push "\n"), ← Rendering.push_append,
          ← Rendering.append_assoc, ← Rendering.push_append, Rendering.append_empty]
  induction children generalizing out with
  | nil => exact (Rendering.append_empty out).symm
  | cons child children ih =>
      rw [List.foldl_cons, ih, hitem, Rendering.append_assoc]
      rfl

/-- A node of the document without a form is none of the three kinds that have one. -/
theorem hasForm_iff (hid : id < dom.size) : dom.hasForm id = true ↔ dom.formless? id = none := by
  rw [hasForm, formless?, Option.filter_eq_none_iff]
  cases hkind : dom.kind? (some id) with
  | none => exact absurd hid (Nat.not_lt.mpr (kind?_eq_none_iff.mp hkind))
  | some kind => simp

/-- A node that is known to have a form exists. -/
theorem exists_of_hasForm (h : dom.hasForm id = true) :
    id < dom.size ∧ dom.formless? id = none := by
  have hid : id < dom.size := by
    refine Nat.not_le.mp fun hid => ?_
    rw [hasForm, kind?_eq_none_iff.mpr hid] at h
    cases h
  exact ⟨hid, (hasForm_iff hid).mp h⟩

/-- The text of an item of an element: its child on a line, and no text when the child has no form.
The item of a child that does not exist is a line with nothing on it. -/
def itemText (catalog : Catalog) (dom : Dom) (child : NodeId) : String :=
  match dom.kind? (some child) with
  | some kind =>
      if kind.hasForm then "\n" ++ (dom.render catalog (some child)).content ++ ";" else ""
  | none => "\n;"

/-- A node that is there is an item of its own rendering if it has a form, and no item otherwise. -/
theorem itemText_of_lt {child : NodeId} (hchild : child < dom.size) :
    dom.itemText catalog child =
      if dom.hasForm child then "\n" ++ (dom.render catalog (some child)).content ++ ";"
      else "" := by
  rw [itemText, hasForm]
  cases hkind : dom.kind? (some child) with
  | none => exact absurd hchild (Nat.not_lt.mpr (kind?_eq_none_iff.mp hkind))
  | some kind => rfl

/-- A node without a form is no item. -/
theorem itemText_of_formless {child : NodeId} {kind : Kind} (h : dom.formless? child = some kind) :
    dom.itemText catalog child = "" := by
  obtain ⟨hkind, hform⟩ := Option.filter_eq_some_iff.mp h
  rw [itemText, hkind]
  exact if_neg (by simpa using hform)

/-- A node that is not there is an item without anything in it. -/
theorem itemText_of_missing {child : NodeId} (h : dom.size ≤ child) :
    dom.itemText catalog child = "\n;" := by
  rw [itemText, kind?_eq_none_iff.mpr h]

/-- Nothing is written of a node that does not exist. -/
theorem content_render_missing (catalog : Catalog) {child : NodeId} (h : dom.size ≤ child) :
    (dom.render catalog (some child)).content = "" := by
  show (dom.write catalog (dom.size + 1) child .empty).content = ""
  rw [write, payload?, get?_eq_none_iff.mpr h]
  rfl

/-- What an item of an element is written as: its text, and an entry for a child without a form or
what its child leaves out. -/
theorem Fits.writeItem_eq (catalog : Catalog) {child : NodeId} (h : dom.Fits dom.size child) :
    let item := dom.writeItem (dom.write catalog dom.size) .empty child
    item.content = dom.itemText catalog child ∧
      item.skipped =
        match dom.formless? child with
        | some kind => [{ id := child, kind }]
        | none => (dom.render catalog (some child)).skipped := by
  intro item
  -- On its own a child is written with room for one level more.
  have hwrite : dom.write catalog dom.size child (Rendering.empty.push "\n") =
      Rendering.empty.push "\n" ++ dom.write catalog (dom.size + 1) child .empty := by
    rw [write_eq_append, h.write_eq (Nat.le_succ _)]
  cases hform : dom.formless? child with
  | some kind =>
      have hitem : item = Rendering.empty.skip child kind := by
        simp only [item, writeItem, hform]
      rw [hitem, itemText_of_formless hform]
      exact ⟨rfl, rfl⟩
  | none =>
      have hitem : item = (Rendering.empty.push "\n" ++
          dom.write catalog (dom.size + 1) child .empty).push ";" := by
        simp only [item, writeItem, hform, hwrite]
      have hcontent : item.content = "\n" ++ (dom.render catalog (some child)).content ++ ";" := by
        rw [hitem]
        rfl
      refine ⟨?_, by rw [hitem]; rfl⟩
      by_cases hchild : child < dom.size
      · rw [hcontent, itemText_of_lt hchild, if_pos ((hasForm_iff hchild).mpr hform)]
      · have hge := Nat.not_lt.mp hchild
        rw [hcontent, itemText_of_missing hge, content_render_missing catalog hge]
        decide

/-- Texts that are empty where a condition fails make up the texts where it holds. -/
theorem join_map_ite (condition : NodeId → Bool) (text : NodeId → String) (ids : List NodeId) :
    String.join (ids.map fun id => if condition id then text id else "") =
      String.join ((ids.filter condition).map text) := by
  induction ids with
  | nil => rfl
  | cons id ids ih =>
      rw [List.map_cons, String.join_cons, ih]
      by_cases hid : condition id = true
      · rw [if_pos hid, List.filter_cons_of_pos hid, List.map_cons, String.join_cons]
      · rw [if_neg hid, List.filter_cons_of_neg hid, String.empty_append]

/-- An element that takes a list of nodes is written as its header and, in brackets, its items. -/
theorem write_list {name : QualifiedName} {attributes : List Attribute}
    (hpayload : dom.payload? (some id) = some (.element name attributes))
    (htag : catalog.tagKind (Ascii.lower name.localName) = .normal) (levels : Nat) :
    dom.write catalog (levels + 1) id .empty =
      (Rendering.empty.push
          (Rendering.header catalog (Ascii.lower name.localName) attributes ++ "[") ++
        Rendering.join ((dom.children (some id)).map
          (dom.writeItem (dom.write catalog levels) .empty))).push "]" := by
  simp only [write, hpayload, htag]
  rw [foldl_writeItem_eq_append (write_eq_append levels), Rendering.pushHeader_eq,
    Rendering.push_push]

/-- The content of an element that takes a list of nodes is its header and, in brackets, the texts
of its items. -/
theorem Traversable.content_render_list (h : dom.Traversable) {name : QualifiedName}
    {attributes : List Attribute}
    (hpayload : dom.payload? (some id) = some (.element name attributes))
    (htag : catalog.tagKind (Ascii.lower name.localName) = .normal) :
    (dom.render catalog (some id)).content =
      Rendering.header catalog (Ascii.lower name.localName) attributes ++ "[" ++
        String.join ((dom.children (some id)).map (dom.itemText catalog)) ++ "]" := by
  have hitems : ((dom.children (some id)).map
        (dom.writeItem (dom.write catalog dom.size) .empty)).map (·.content) =
      (dom.children (some id)).map (dom.itemText catalog) := by
    rw [List.map_map]
    refine List.map_congr_left fun child hchild => ?_
    have hfits : dom.Fits dom.size child := h.fits id child hchild
    exact (hfits.writeItem_eq catalog).1
  show (dom.write catalog (dom.size + 1) id .empty).content = _
  rw [write_list hpayload htag, ← hitems, ← Rendering.content_join]
  simp [Rendering.push, Rendering.empty]

/-- Writing a node of a well-formed document adds its rendering behind what is there, and the
rendering of an element that takes a list of nodes is its header and the renderings of its children,
each on a line, with the children that have no form left out and listed. -/
theorem WellFormed.render_composes (h : dom.WellFormed) (catalog : Catalog) (hid : id < dom.size) :
    (∀ levels out, dom.size ≤ levels →
      (dom.write catalog levels id out).content =
          out.content ++ (dom.render catalog (some id)).content ∧
        (dom.write catalog levels id out).skipped =
          out.skipped ++ (dom.render catalog (some id)).skipped) ∧
    ∀ name attributes, dom.payload? (some id) = some (.element name attributes) →
      catalog.tagKind (Ascii.lower name.localName) = .normal →
      (dom.render catalog (some id)).content =
          Rendering.header catalog (Ascii.lower name.localName) attributes ++ "[" ++
            String.join (((dom.children (some id)).filter dom.hasForm).map fun child =>
              "\n" ++ (dom.render catalog (some child)).content ++ ";") ++ "]" ∧
        (dom.render catalog (some id)).skipped =
          (dom.children (some id)).flatMap fun child =>
            match dom.formless? child with
            | some kind => [{ id := child, kind }]
            | none => (dom.render catalog (some child)).skipped := by
  refine ⟨fun levels out hlevels => ?_, fun name attributes hpayload htag => ?_⟩
  · -- The rendering goes one level further down than the document is deep.
    have hfits := h.fits hid
    rw [write_eq_append, hfits.write_eq hlevels, ← hfits.write_eq (Nat.le_succ _)]
    exact ⟨rfl, rfl⟩
  · have hexists : ∀ child ∈ dom.children (some id), child < dom.size :=
      fun child hchild => lt_of_under (h.mem_children.mp hchild)
    have hcontent : ((dom.children (some id)).map
          (dom.writeItem (dom.write catalog dom.size) .empty)).map (·.content) =
        (dom.children (some id)).map fun child => if dom.hasForm child then
          "\n" ++ (dom.render catalog (some child)).content ++ ";" else "" := by
      rw [List.map_map]
      exact List.map_congr_left fun child hchild =>
        ((h.fits (hexists child hchild)).writeItem_eq catalog).1.trans
          (itemText_of_lt (hexists child hchild))
    -- A child that is left out lists itself, and any other what its own rendering lists.
    have hskipped := List.flatMap_congr fun child hchild =>
      ((h.fits (hexists child hchild)).writeItem_eq catalog).2
    have hwrite := write_list hpayload htag dom.size
    constructor
    · show (dom.write catalog (dom.size + 1) id .empty).content = _
      rw [hwrite, ← join_map_ite, ← hcontent, ← Rendering.content_join]
      simp [Rendering.push, Rendering.empty]
    · show (dom.write catalog (dom.size + 1) id .empty).skipped = _
      rw [hwrite, ← hskipped, ← List.flatMap_map, ← Rendering.skipped_join]
      simp [Rendering.push, Rendering.empty]

/-- The list of a document type and a line break, written behind a word: the list has one line, and
the document type is left out. -/
theorem render_composes_break :
    let dom := Dom.empty.run breakSteps
    let catalog := Catalog.empty.registerTags .void ["br"]
    dom.WellFormed ∧ 1 < dom.size ∧
      dom.payload? (some 1) = some (.element (.html "UL") []) ∧
      catalog.tagKind (Ascii.lower "UL") = .normal ∧
      (dom.write catalog dom.size 1 (Rendering.empty.push "let list = ")).content =
        "let list = " ++ (dom.render catalog (some 1)).content ∧
      (dom.render catalog (some 1)).content =
        Rendering.header catalog (Ascii.lower "UL") [] ++ "[" ++
          ("\n" ++ (dom.render catalog (some 3)).content ++ ";") ++ "]" ∧
      (dom.render catalog (some 1)).skipped = [{ id := 2, kind := .doctype }] := by
  intro dom catalog
  have hwell : dom.WellFormed := wellFormed_empty.run validRun_breakSteps
  have hroot : 1 < dom.size := by decide
  have hpayload : dom.payload? (some 1) = some (.element (.html "UL") []) := by decide
  have htag : catalog.tagKind (Ascii.lower "UL") = .normal := by decide
  obtain ⟨hwrite, hlist⟩ := hwell.render_composes catalog hroot
  obtain ⟨hcontent, hskipped⟩ := hlist _ _ hpayload htag
  have hform : (dom.children (some 1)).filter dom.hasForm = [3] := by decide
  rw [hform, List.map_singleton, String.join_cons, String.join_nil, String.append_empty] at hcontent
  exact ⟨hwell, hroot, hpayload, htag, (hwrite _ _ (Nat.le_refl _)).1, hcontent,
    hskipped.trans (by decide)⟩

end Dom

end HtmlTemplate
