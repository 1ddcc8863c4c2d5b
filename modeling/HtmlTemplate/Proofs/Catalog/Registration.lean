import HtmlTemplate.Catalog

/-!
# Runs of registrations

A catalog is built by registrations, each of which lists names under one heading. Its answer about a
name goes by the earliest registration that lists the name in the table that is asked, whatever the
order of the calls, their headings and repeated names: `Catalog.firstDecides`. So registrations in
different tables can change places, the order of the names in one does not matter, to register again
what has been registered changes nothing, and a name keeps what it was registered under.

The tables differ in the headings they take and in nothing else, which is what a `Column` says. A
registration leaves an entry as it is and adds one where there is none (`Column.lookup_register`).
So, after a run, a table has for a name what the earliest registration has (`Column.lookup_build`).
-/

namespace HtmlTemplate.Catalog

/-- The tables of a catalog. -/
inductive Table where
  | names
  | values
  | tags
  deriving DecidableEq

/-- What names are registered under, in one of the tables. -/
inductive Heading where
  | name (kind : NameClass)
  | value (kind : ValueKind)
  | tag (kind : TagKind)

namespace Heading

/-- The table that a heading belongs to. -/
def table : Heading → Table
  | .name _ => .names
  | .value _ => .values
  | .tag _ => .tags

/-- The class of attribute names that a heading stands for. -/
def nameClass? : Heading → Option NameClass
  | .name kind => some kind
  | _ => none

/-- The form of values that a heading stands for. -/
def valueKind? : Heading → Option ValueKind
  | .value kind => some kind
  | _ => none

/-- The kind of content that a heading stands for. -/
def tagKind? : Heading → Option TagKind
  | .tag kind => some kind
  | _ => none

end Heading

/-- A call that registers names under a heading. -/
structure Registration where
  heading : Heading
  names : List String

/-- What a registration has for a name, if it lists the name and its heading is one that `read`
reads. -/
def Registration.kind? {κ : Type} (read : Heading → Option κ) (name : String)
    (call : Registration) : Option κ :=
  if name ∈ call.names then read call.heading else none

/-- What the earliest registration has for a name, of those that list the name under a heading that
`read` reads. -/
def first? {κ : Type} (read : Heading → Option κ) (calls : List Registration) (name : String) :
    Option κ :=
  calls.findSome? (Registration.kind? read name)

/-- The catalog after a registration. -/
def register (catalog : Catalog) (call : Registration) : Catalog :=
  match call.heading with
  | .name kind => catalog.registerNames kind call.names
  | .value kind => catalog.registerValues kind call.names
  | .tag kind => catalog.registerTags kind call.names

/-- The catalog that registrations build, one after another. -/
def build (calls : List Registration) : Catalog :=
  calls.foldl register empty

/-- Two catalogs give the same answer about a name, when one of their tables is asked. -/
def SameAnswer (table : Table) (name : String) (catalog other : Catalog) : Prop :=
  match table with
  | .names => catalog.nameClass name = other.nameClass name
  | .values => catalog.valueKind name = other.valueKind name
  | .tags => catalog.tagKind name = other.tagKind name

variable {κ : Type} {read : Heading → Option κ} {calls : List Registration}
  {call : Registration} {name : String}

/-! ## The earliest registration -/

/-- The first call comes before the others. -/
theorem first?_cons (read : Heading → Option κ) (call : Registration) (calls : List Registration)
    (name : String) :
    first? read (call :: calls) name = (call.kind? read name).or (first? read calls name) := by
  rw [first?, List.findSome?_cons]
  cases call.kind? read name <;> rfl

/-- The first of two runs comes before the second. -/
theorem first?_append (read : Heading → Option κ) (calls later : List Registration)
    (name : String) :
    first? read (calls ++ later) name = (first? read calls name).or (first? read later name) :=
  List.findSome?_append

/-- A name that is listed is found. -/
theorem isSome_first? (hcall : call ∈ calls) (hname : name ∈ call.names)
    (hread : (read call.heading).isSome = true) : (first? read calls name).isSome = true := by
  refine List.findSome?_isSome_iff.mpr ⟨call, hcall, ?_⟩
  rw [Registration.kind?, if_pos hname, hread]

/-- Later registrations do not matter to a name that is listed. -/
theorem first?_append_of_mem (hcall : call ∈ calls) (hname : name ∈ call.names)
    (hread : (read call.heading).isSome = true) (later : List Registration) :
    first? read (calls ++ later) name = first? read calls name := by
  rw [first?_append, Option.or_of_isSome (isSome_first? hcall hname hread)]

/-- The order of the names of a registration does not matter. -/
theorem first?_perm {names reordered : List String} (h : names.Perm reordered)
    (read : Heading → Option κ) (calls later : List Registration) (heading : Heading)
    (name : String) :
    first? read (calls ++ ⟨heading, names⟩ :: later) name =
      first? read (calls ++ ⟨heading, reordered⟩ :: later) name := by
  have hkind : Registration.kind? read name ⟨heading, names⟩ =
      Registration.kind? read name ⟨heading, reordered⟩ := by
    simp only [Registration.kind?, h.mem_iff]
  rw [first?_append, first?_append, first?_cons, first?_cons, hkind]

/-! ## Tables under registrations -/

/-- A table and the headings it takes: registrations under these enter their names in it, and others
leave it as it is. -/
structure Column (κ : Type) where
  entries : Catalog → List (String × κ)
  read : Heading → Option κ
  entries_empty : entries empty = []
  entries_register : ∀ catalog call, entries (catalog.register call) =
    (read call.heading).elim (entries catalog)
      fun kind => call.names.foldl (enter kind) (entries catalog)

namespace Column

/-- The classes of attribute names. -/
def names : Column NameClass where
  entries := Catalog.names
  read := Heading.nameClass?
  entries_empty := rfl
  entries_register := fun _ ⟨heading, _⟩ => by cases heading <;> rfl

/-- The forms of attributes' values. -/
def values : Column ValueKind where
  entries := Catalog.values
  read := Heading.valueKind?
  entries_empty := rfl
  entries_register := fun _ ⟨heading, _⟩ => by cases heading <;> rfl

/-- The kinds of elements' content. -/
def tags : Column TagKind where
  entries := Catalog.tags
  read := Heading.tagKind?
  entries_empty := rfl
  entries_register := fun _ ⟨heading, _⟩ => by cases heading <;> rfl

variable (column : Column κ)

/-- A registration gives a name an entry where it has none. -/
theorem lookup_register (catalog : Catalog) (call : Registration) (name : String) :
    (column.entries (catalog.register call)).lookup name =
      ((column.entries catalog).lookup name).or (call.kind? column.read name) := by
  rw [column.entries_register, Registration.kind?]
  cases column.read call.heading with
  | none => rw [ite_self, Option.or_none, Option.elim]
  | some kind => exact lookup_foldl_enter kind _ call.names name

/-- A run of calls leaves the entries of a column as they are, and adds the earliest entry for every
other name. -/
theorem lookup_foldl_register (calls : List Registration) (catalog : Catalog) (name : String) :
    (column.entries (calls.foldl register catalog)).lookup name =
      ((column.entries catalog).lookup name).or (first? column.read calls name) := by
  induction calls generalizing catalog with
  | nil => exact Option.or_none.symm
  | cons call calls ih =>
      rw [List.foldl_cons, ih, column.lookup_register, Option.or_assoc, first?_cons]

/-- After a run, a table has for a name what the earliest registration has. -/
theorem lookup_build (calls : List Registration) (name : String) :
    (column.entries (build calls)).lookup name = first? column.read calls name := by
  rw [build, column.lookup_foldl_register, column.entries_empty, List.lookup_nil, Option.none_or]

/-- A registration that has been made finds an entry for each of its names. -/
theorem entries_register_of_mem (h : call ∈ calls) :
    column.entries ((build calls).register call) = column.entries (build calls) := by
  rw [column.entries_register]
  cases hread : column.read call.heading with
  | none => rfl
  | some kind =>
      refine foldl_enter_of_isSome kind _ fun name hname => ?_
      rw [column.lookup_build]
      exact isSome_first? h hname (by rw [hread]; rfl)

end Column

/-! ## Answers after runs -/

/-- The class of a name is the earliest that was registered. -/
theorem nameClass_build (calls : List Registration) (name : String) :
    (build calls).nameClass name = first? Heading.nameClass? calls name :=
  Column.names.lookup_build calls name

/-- The kind of a value is the earliest that was registered, and that of strings if none was. -/
theorem valueKind_build (calls : List Registration) (name : String) :
    (build calls).valueKind name = (first? Heading.valueKind? calls name).getD .string :=
  congrArg (·.getD .string) (Column.values.lookup_build calls name)

/-- The kind of a tag is the earliest that was registered, and the normal one if none was. -/
theorem tagKind_build (calls : List Registration) (name : String) :
    (build calls).tagKind name = (first? Heading.tagKind? calls name).getD .normal :=
  congrArg (·.getD .normal) (Column.tags.lookup_build calls name)

/-- A run that goes on starts from the catalog built so far. -/
theorem build_append (calls later : List Registration) :
    build (calls ++ later) = later.foldl register (build calls) :=
  List.foldl_append

/-- Registrations in different tables can change places. -/
theorem register_swap (catalog : Catalog) {other : Registration}
    (h : call.heading.table ≠ other.heading.table) :
    (catalog.register call).register other = (catalog.register other).register call := by
  obtain ⟨heading, names⟩ := call
  obtain ⟨otherHeading, otherNames⟩ := other
  -- Each heading writes a field of its own, and the cases with one field are excluded.
  cases heading <;> cases otherHeading <;> first | rfl | exact absurd rfl h

/-- To register again what has been registered changes nothing. -/
theorem register_of_mem (h : call ∈ calls) : (build calls).register call = build calls :=
  Catalog.ext (Column.names.entries_register_of_mem h) (Column.values.entries_register_of_mem h)
    (Column.tags.entries_register_of_mem h)

/-- Runs in which the same registration is the earliest give the same answer. -/
theorem sameAnswer_of_first?_eq {others : List Registration}
    (h : ∀ {κ : Type} (read : Heading → Option κ), first? read calls name = first? read others name)
    (table : Table) : SameAnswer table name (build calls) (build others) := by
  cases table with
  | names => rw [SameAnswer, nameClass_build, nameClass_build, h]
  | values => rw [SameAnswer, valueKind_build, valueKind_build, h]
  | tags => rw [SameAnswer, tagKind_build, tagKind_build, h]

/-- A name keeps what it was registered under. -/
theorem sameAnswer_build_append (hcall : call ∈ calls) (hname : name ∈ call.names)
    (later : List Registration) :
    SameAnswer call.heading.table name (build (calls ++ later)) (build calls) := by
  cases hheading : call.heading with
  | name kind =>
      rw [Heading.table, SameAnswer, nameClass_build, nameClass_build,
        first?_append_of_mem hcall hname (by rw [hheading]; rfl)]
  | value kind =>
      rw [Heading.table, SameAnswer, valueKind_build, valueKind_build,
        first?_append_of_mem hcall hname (by rw [hheading]; rfl)]
  | tag kind =>
      rw [Heading.table, SameAnswer, tagKind_build, tagKind_build,
        first?_append_of_mem hcall hname (by rw [hheading]; rfl)]

/-- The answers of the catalog that `calls` build go by the first registration of a name, and so do
those of every catalog that is built by going on from there. -/
structure FirstDecides (calls : List Registration) : Prop where
  /-- The class of an attribute name is that of the earliest registration that has one for it. -/
  nameClass_eq : ∀ name, (build calls).nameClass name = first? Heading.nameClass? calls name
  /-- So is the form of an attribute's value, and a name without a registration takes a string. -/
  valueKind_eq : ∀ name,
    (build calls).valueKind name = (first? Heading.valueKind? calls name).getD .string
  /-- So is the content of an element, and a name without a registration takes nodes. -/
  tagKind_eq : ∀ name,
    (build calls).tagKind name = (first? Heading.tagKind? calls name).getD .normal
  /-- Registrations in different tables can change places. -/
  swap : ∀ call other later, call.heading.table ≠ other.heading.table →
    build (calls ++ call :: other :: later) = build (calls ++ other :: call :: later)
  /-- The order of the names of a registration does not matter to any answer. -/
  perm : ∀ heading names reordered later, List.Perm names reordered → ∀ table name,
    SameAnswer table name (build (calls ++ ⟨heading, names⟩ :: later))
      (build (calls ++ ⟨heading, reordered⟩ :: later))
  /-- An earlier registration that is made again changes nothing. -/
  again : ∀ call ∈ calls, ∀ later, build (calls ++ call :: later) = build (calls ++ later)
  /-- A name keeps what it was registered under, whatever is registered later. -/
  kept : ∀ call ∈ calls, ∀ name ∈ call.names, ∀ later,
    SameAnswer call.heading.table name (build (calls ++ later)) (build calls)

/-- In every catalog that can be built, the first registration of a name decides. -/
theorem firstDecides (calls : List Registration) : FirstDecides calls where
  nameClass_eq := nameClass_build calls
  valueKind_eq := valueKind_build calls
  tagKind_eq := tagKind_build calls
  swap call other later h := by
    rw [build_append, build_append, List.foldl_cons, List.foldl_cons, List.foldl_cons,
      List.foldl_cons, register_swap _ h]
  perm heading names reordered later h table name :=
    sameAnswer_of_first?_eq (fun read => first?_perm h read calls later heading name) table
  again call hcall later := by
    rw [build_append, build_append, List.foldl_cons, register_of_mem hcall]
  kept call hcall name hname later := sameAnswer_build_append hcall hname later

/-- Registrations that repeat names, in one list and in several, and in two tables. -/
def sizeCalls : List Registration :=
  [⟨.value .integer, ["size", "cols"]⟩, ⟨.name .suffix, ["size"]⟩,
    ⟨.value .boolean, ["open", "size", "open"]⟩]

/-- The size stays a number, whether it is registered again, in what order, or before its class. -/
theorem firstDecides_size :
    let boolean := Heading.value .boolean
    let repeated : Registration := ⟨boolean, ["open", "size", "open"]⟩
    let markup : Registration := ⟨.tag .void, ["size"]⟩
    (build sizeCalls).valueKind "size" = .integer ∧ (build sizeCalls).valueKind "open" = .boolean ∧
      (build sizeCalls).nameClass "size" = some .suffix ∧
      (build sizeCalls).tagKind "size" = .normal ∧
      build (sizeCalls ++ [repeated]) = build sizeCalls ∧
      build (sizeCalls ++ [markup, repeated]) = build (sizeCalls ++ [repeated, markup]) ∧
      SameAnswer .values "wrap" (build (sizeCalls ++ [⟨boolean, ["wrap", "cols"]⟩]))
        (build (sizeCalls ++ [⟨boolean, ["cols", "wrap"]⟩])) ∧
      (build (sizeCalls ++ [repeated, markup])).valueKind "size" = .integer := by
  intro boolean repeated markup
  have hfirst := firstDecides sizeCalls
  have hsize : (build sizeCalls).valueKind "size" = .integer := hfirst.valueKind_eq "size"
  have hagain : build (sizeCalls ++ [repeated]) = build sizeCalls := by
    rw [hfirst.again repeated (by simp [sizeCalls, repeated, boolean]) [], List.append_nil]
  have hkept : SameAnswer .values "size" (build (sizeCalls ++ [repeated, markup]))
      (build sizeCalls) :=
    hfirst.kept ⟨.value .integer, ["size", "cols"]⟩ (by simp [sizeCalls]) "size" (by simp) _
  exact ⟨hsize, hfirst.valueKind_eq "open", hfirst.nameClass_eq "size", hfirst.tagKind_eq "size",
    hagain, hfirst.swap markup repeated [] (by decide),
    hfirst.perm boolean _ _ [] (List.Perm.swap "cols" "wrap" []) .values "wrap",
    Eq.trans hkept hsize⟩

end HtmlTemplate.Catalog
