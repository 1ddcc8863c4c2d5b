import HtmlTemplate.Ascii
import HtmlTemplate.Catalog

/-!
# Attribute constructors

`Constructor.ofName` gives the expression by which the template language names an attribute:

* a reserved word gets an underscore (`class_`),
* an accessibility attribute is looked up in `Aria` (`Aria.label`),
* an htmx attribute is looked up in `Hx`, with underscores for hyphens (`Hx.push_url`), also when
  it is written with a leading `data-`,
* any other name with a hyphen is quoted (`string_attr "data-id"`),
* and everything else stands for itself.
-/

namespace HtmlTemplate.Constructor

/-- The member of `Hx` for the part of an htmx name that follows `hx-`. -/
def hxMember (rest : String) : String :=
  "Hx." ++ String.ofList (rest.toList.map fun c => if c = '-' then '_' else c)

/-- The htmx name behind a leading `data-`, without its `hx-`. -/
def prefixedHx? (catalog : Catalog) (name : String) : Option String := do
  let hx ← Ascii.dropLead? "data-" name
  guard (catalog.isHx hx)
  Ascii.dropLead? "hx-" hx

/-- The constructor of the attribute called `name`. -/
def ofName (catalog : Catalog) (name : String) : String :=
  match catalog.nameClass name with
  | some .suffix => name ++ "_"
  | some .aria => "Aria." ++ (Ascii.dropLead? "aria-" name).getD name
  | some .hx => hxMember ((Ascii.dropLead? "hx-" name).getD name)
  | none =>
    match prefixedHx? catalog name with
    | some rest => hxMember rest
    | none => if name.toList.contains '-' then "string_attr \"" ++ name ++ "\"" else name

end HtmlTemplate.Constructor
