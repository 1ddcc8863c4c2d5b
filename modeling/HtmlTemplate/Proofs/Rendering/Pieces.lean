import HtmlTemplate.Rendering

/-!
# The pieces of a rendering

Every step of a rendering adds text at its end and looks at nothing that is there. So the header of
an element comes out as one text, `Rendering.header`, with the source of each attribute in turn. A
node without a form comes out as nothing: `Dom.exists_payload_of_formless` says what it holds.
-/

namespace HtmlTemplate

namespace Rendering

/-- A string literal is added as source text. -/
theorem pushText_eq (out : Rendering) (text : String) :
    out.pushText text = out.push (Literal.ofText text) := by
  rw [pushText, push, Literal.pushText_eq]

/-- Two texts that are added one after the other are added as one. -/
@[simp] theorem push_push (out : Rendering) (first second : String) :
    (out.push first).push second = out.push (first ++ second) := by
  simp [push, String.append_assoc]

/-- The source of an attribute. -/
def attributeCode (catalog : Catalog) (attr : Attribute) : String :=
  Constructor.ofName catalog attr.qualifiedName ++ " " ++
    Literal.ofValue catalog (some attr.value) (some attr.qualifiedName) ++ "; "

/-- The source of an element up to its content. -/
def header (catalog : Catalog) (tag : String) (attributes : List Attribute) : String :=
  tag ++ " [" ++ String.join (attributes.map (attributeCode catalog)) ++ "] "

/-- An attribute is added as source text. -/
theorem pushAttribute_eq (catalog : Catalog) (out : Rendering) (attr : Attribute) :
    pushAttribute catalog out attr = out.push (attributeCode catalog attr) := by
  simp [pushAttribute, attributeCode]

/-- The name and the attributes of an element are added as source text. -/
theorem pushHeader_eq (catalog : Catalog) (out : Rendering) (tag : String)
    (attributes : List Attribute) :
    out.pushHeader catalog tag attributes = out.push (header catalog tag attributes) := by
  have hall : ∀ (attributes : List Attribute) (out : Rendering),
      attributes.foldl (pushAttribute catalog) out =
        out.push (String.join (attributes.map (attributeCode catalog))) := by
    intro attributes
    induction attributes with
    | nil => simp [push]
    | cons attr rest ih =>
        intro out
        rw [List.foldl_cons, ih, pushAttribute_eq, push_push, List.map_cons, String.join_cons]
  rw [pushHeader, hall]
  simp [header, String.append_assoc]

end Rendering

namespace Dom

variable {dom : Dom} {id : NodeId}

/-- A node without a form exists, and what it says is of a kind without a form. -/
theorem exists_payload_of_formless {kind : Kind} (h : dom.formless? id = some kind) :
    ∃ payload, dom.payload? (some id) = some payload ∧ payload.kind = kind ∧
      payload.kind.hasForm = false := by
  obtain ⟨hkind, hform⟩ := Option.filter_eq_some_iff.mp h
  rw [kind?_eq] at hkind
  obtain ⟨payload, hpayload, rfl⟩ := Option.map_eq_some_iff.mp hkind
  exact ⟨payload, hpayload, rfl, by simpa using hform⟩

end Dom

end HtmlTemplate
