/-!
# Catalogs of names

A `Catalog` answers three questions about a name: how an attribute of that name is spelled in the
template language (`Catalog.nameClass`), which form its value takes (`Catalog.valueKind`), and what
an element of that name may contain (`Catalog.tagKind`). A catalog is built by registering names,
one after another, and the first registration of a name decides: a name that a table already has is
not entered in it again (`Catalog.enter`).
-/

namespace HtmlTemplate

/-- How an attribute name is spelled in the template language. -/
inductive NameClass where
  /-- Collides with a reserved word, and gets an underscore at its end. -/
  | suffix
  /-- An accessibility attribute, found in the `Aria` module. -/
  | aria
  /-- An htmx attribute, found in the `Hx` module. -/
  | hx
  deriving DecidableEq

/-- Which form an attribute value takes. -/
inductive ValueKind where
  /-- One of a closed set, written as a variant. -/
  | poly
  /-- A number, written bare. -/
  | integer
  /-- Counts by being there; the value is dropped. -/
  | boolean
  /-- Anything else, written as a string literal. -/
  | string
  deriving DecidableEq

/-- What an element contains. -/
inductive TagKind where
  /-- Never has children. -/
  | void
  /-- Its text, as one string. -/
  | text
  /-- A list of nodes. -/
  | normal
  deriving DecidableEq

/-- Three tables of names, each in the order of registration. No name has two entries in a table. -/
@[ext]
structure Catalog where
  names : List (String × NameClass) := []
  values : List (String × ValueKind) := []
  tags : List (String × TagKind) := []

namespace Catalog

/-- A catalog without names: every attribute is plain and every element is normal. -/
def empty : Catalog := {}

/-- Enters a name in a table under `kind`, unless the table already has it. -/
def enter {κ : Type} (kind : κ) (table : List (String × κ)) (name : String) :
    List (String × κ) :=
  if (table.lookup name).isSome then table else table ++ [(name, kind)]

/-- Registers attribute names under a class. -/
def registerNames (catalog : Catalog) (kind : NameClass) (names : List String) : Catalog :=
  { catalog with names := names.foldl (enter kind) catalog.names }

/-- Registers attribute names under the form of their values. -/
def registerValues (catalog : Catalog) (kind : ValueKind) (names : List String) : Catalog :=
  { catalog with values := names.foldl (enter kind) catalog.values }

/-- Registers element names under the kind of their content. -/
def registerTags (catalog : Catalog) (kind : TagKind) (names : List String) : Catalog :=
  { catalog with tags := names.foldl (enter kind) catalog.tags }

/-- The class of an attribute name, if it has one. -/
def nameClass (catalog : Catalog) (name : String) : Option NameClass :=
  catalog.names.lookup name

/-- The form of an attribute's value; a name that is not registered takes a string. -/
def valueKind (catalog : Catalog) (name : String) : ValueKind :=
  (catalog.values.lookup name).getD .string

/-- The content of an element; a name that is not registered takes a list of nodes. -/
def tagKind (catalog : Catalog) (name : String) : TagKind :=
  (catalog.tags.lookup name).getD .normal

/-- Whether `name` is registered as an htmx attribute. -/
def isHx (catalog : Catalog) (name : String) : Bool :=
  catalog.nameClass name == some .hx

section Tables

variable {κ : Type} (kind : κ) (table : List (String × κ))

/-- Entering a name gives an entry to this name, if it has none, and to no other. -/
theorem lookup_enter (name other : String) :
    (enter kind table name).lookup other =
      (table.lookup other).or (if other = name then some kind else none) := by
  rw [enter]
  split
  next hname =>
    by_cases hother : other = name
    · rw [hother, Option.or_of_isSome hname]
    · rw [if_neg hother, Option.or_none]
  next =>
    rw [List.lookup_append]
    by_cases hother : other = name
    · simp [hother]
    · simp [List.lookup_cons, beq_eq_false_iff_ne.mpr hother, hother]

/-- Entering names gives an entry to those of them that have none, and to no other name. -/
theorem lookup_foldl_enter (names : List String) (name : String) :
    (names.foldl (enter kind) table).lookup name =
      (table.lookup name).or (if name ∈ names then some kind else none) := by
  induction names generalizing table with
  | nil => rw [List.foldl_nil, if_neg List.not_mem_nil, Option.or_none]
  | cons first names ih =>
    rw [List.foldl_cons, ih, lookup_enter, Option.or_assoc]
    by_cases hfirst : name = first
    · simp [hfirst]
    · simp [hfirst]

/-- Names that all have entries are not entered again. -/
theorem foldl_enter_of_isSome {names : List String}
    (h : ∀ name ∈ names, (table.lookup name).isSome = true) :
    names.foldl (enter kind) table = table := by
  induction names with
  | nil => rfl
  | cons first names ih =>
    obtain ⟨hfirst, hnames⟩ := List.forall_mem_cons.mp h
    rw [List.foldl_cons, enter, if_pos hfirst, ih hnames]

end Tables

end Catalog

end HtmlTemplate
