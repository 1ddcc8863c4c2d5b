import HtmlTemplate.Catalog.Standard
import HtmlTemplate.Constructor
import Mathlib.Data.List.Basic

/-!
# Which attributes share a constructor

A constructor of the template language leaves little of an attribute's name out, so that the name
can be read off it (`Constructor.nameOf`). Only an htmx attribute with a leading `data-` is read
back without it (`Constructor.nameOf_ofName`). So no two attributes share a constructor in the
standard catalog, but for an htmx attribute and its form with `data-` (`Constructor.ofName_eq_iff`).

Names with a dot are left out, since they can look like a member of a module, and so are names that
end in an underscore, since they can look like a reserved word that got one.
-/

namespace HtmlTemplate

namespace Catalog.Standard

/-! ## The names of the standard catalog -/

/-- The names that are registered under a class. -/
def namesOf : NameClass → List String
  | .suffix => reservedNames
  | .aria => ariaNames
  | .hx => hxNames

/-- The class of a name goes by the lists of the standard catalog. -/
theorem nameClass_standard (name : String) :
    standard.nameClass name =
      ((if name ∈ reservedNames then some NameClass.suffix else none).or
        (if name ∈ ariaNames then some .aria else none)).or
        (if name ∈ hxNames then some .hx else none) := by
  simp only [nameClass, standard, registerTags, registerValues, registerNames, empty,
    lookup_foldl_enter, List.lookup_nil, Option.none_or]

/-- A name that has a class is registered under it. -/
theorem mem_namesOf {name : String} {kind : NameClass} (h : standard.nameClass name = some kind) :
    name ∈ namesOf kind := by
  have hcase : ∀ {names : List String} {other : NameClass},
      (if name ∈ names then some other else none) = some kind → name ∈ names ∧ other = kind := by
    intro names other hother
    rw [Option.ite_none_right_eq_some] at hother
    exact ⟨hother.1, Option.some.inj hother.2⟩
  rw [nameClass_standard, Option.or_eq_some_iff, Option.or_eq_some_iff] at h
  rcases h with (h | ⟨-, h⟩) | ⟨-, h⟩ <;> obtain ⟨hmem, rfl⟩ := hcase h <;> exact hmem

/-- A reserved word has no hyphen. -/
theorem hyphen_not_mem_reserved : ∀ name ∈ reservedNames, '-' ∉ name.toList := by
  decide +kernel

/-- The one hyphen of an accessibility attribute stands behind `aria`. -/
theorem aria_form : ∀ name ∈ ariaNames,
    "aria-".toList <+: name.toList ∧ '-' ∉ name.toList.drop 5 := by
  decide +kernel

/-- An htmx attribute begins with `hx-` and has no underscore. -/
theorem hx_form : ∀ name ∈ hxNames, "hx-".toList <+: name.toList ∧ '_' ∉ name.toList := by
  decide +kernel

/-- What begins with a lead is the lead and a rest. -/
theorem exists_eq_append {lead name : String} (h : lead.toList <+: name.toList) :
    ∃ rest, name = lead ++ rest := by
  obtain ⟨rest, hrest⟩ := h
  exact ⟨String.ofList rest, by
    rw [String.ext_iff, String.toList_append, String.toList_ofList, hrest]⟩

/-- Every name of this class is the prefix and a rest without hyphens. -/
theorem exists_rest_of_aria {name : String} (h : name ∈ ariaNames) :
    ∃ rest, name = "aria-" ++ rest ∧ '-' ∉ rest.toList := by
  obtain ⟨hlead, hhyphen⟩ := aria_form name h
  obtain ⟨rest, rfl⟩ := exists_eq_append hlead
  exact ⟨rest, rfl, by simpa using hhyphen⟩

/-- Every name of this class is the prefix and a rest without underscores. -/
theorem exists_rest_of_hx {name : String} (h : name ∈ hxNames) :
    ∃ rest, name = "hx-" ++ rest ∧ '_' ∉ rest.toList := by
  obtain ⟨hlead, hunderscore⟩ := hx_form name h
  obtain ⟨rest, rfl⟩ := exists_eq_append hlead
  exact ⟨rest, rfl, by simpa using hunderscore⟩

/-- No registered name begins with `data-`. -/
theorem nameClass_data (name : String) : standard.nameClass ("data-" ++ name) = none := by
  refine Option.eq_none_iff_forall_ne_some.mpr fun kind hkind => ?_
  have hmem := mem_namesOf hkind
  cases kind with
  | suffix => simpa using hyphen_not_mem_reserved _ hmem
  | aria =>
      obtain ⟨rest, hrest, -⟩ := exists_rest_of_aria hmem
      simpa using congrArg (·.toList.head?) hrest
  | hx =>
      obtain ⟨rest, hrest, -⟩ := exists_rest_of_hx hmem
      simpa using congrArg (·.toList.head?) hrest

end Catalog.Standard

namespace Constructor

open Catalog.Standard

/-! ## Reading a name off its constructor -/

/-- The name that a constructor was made for. -/
def nameOf (constructor : String) : String :=
  if '-' ∈ constructor.toList then
    String.ofList ((Ascii.dropLead? "string_attr \"" constructor).getD "").toList.dropLast
  else
    match Ascii.dropLead? "Aria." constructor, Ascii.dropLead? "Hx." constructor with
    | some rest, _ => "aria-" ++ rest
    | none, some rest =>
      "hx-" ++ String.ofList (rest.toList.map fun c => if c = '_' then '-' else c)
    | none, none =>
      if constructor.toList.getLast? = some '_' then String.ofList constructor.toList.dropLast
      else constructor

/-- What follows a lead is what was put behind it. -/
theorem dropLead?_append (lead rest : String) : Ascii.dropLead? lead (lead ++ rest) = some rest :=
  Ascii.dropLead?_eq_some_iff.mpr rfl

/-- A text without a character of the lead does not begin with the lead. -/
theorem dropLead?_eq_none {lead name : String} {c : Char} (hc : c ∈ lead.toList)
    (h : c ∉ name.toList) : Ascii.dropLead? lead name = none := by
  refine Option.eq_none_iff_forall_ne_some.mpr fun rest hrest => h ?_
  rw [Ascii.dropLead?_eq_some_iff.mp hrest, String.toList_append]
  exact List.mem_append_left _ hc

/-- A quoted name with a hyphen is read back. -/
theorem nameOf_quoted {name : String} (h : '-' ∈ name.toList) :
    nameOf ("string_attr \"" ++ name ++ "\"") = name := by
  have hhyphen : '-' ∈ ("string_attr \"" ++ name ++ "\"").toList := by simp [h]
  rw [nameOf, if_pos hhyphen, String.append_assoc, dropLead?_append]
  simp

/-- The constructor of an aria name is read back. -/
theorem nameOf_aria {rest : String} (h : '-' ∉ rest.toList) :
    nameOf ("Aria." ++ rest) = "aria-" ++ rest := by
  have hhyphen : '-' ∉ ("Aria." ++ rest).toList := by simp [h]
  rw [nameOf, if_neg hhyphen, dropLead?_append]

/-- The hyphens of an htmx attribute are put back for underscores. -/
theorem nameOf_hxMember {rest : String} (h : '_' ∉ rest.toList) :
    nameOf (hxMember rest) = "hx-" ++ rest := by
  have hhyphen : '-' ∉ (hxMember rest).toList := by
    rw [hxMember, String.toList_append, List.mem_append, not_or]
    refine ⟨by decide, fun hmem => ?_⟩
    rw [String.toList_ofList] at hmem
    obtain ⟨c, -, hc⟩ := List.mem_map.mp hmem
    split at hc
    · cases hc
    · next hne => exact hne hc
  have haria : Ascii.dropLead? "Aria." (hxMember rest) = none := by
    refine Option.eq_none_iff_forall_ne_some.mpr fun tail htail => ?_
    have heq := Ascii.dropLead?_eq_some_iff.mp htail
    simpa [hxMember] using congrArg (·.toList.head?) heq
  have hback : (rest.toList.map fun c => if c = '-' then '_' else c).map
      (fun c => if c = '_' then '-' else c) = rest.toList := by
    rw [List.map_map, List.map_congr_left, List.map_id]
    intro c hc
    have hne : c ≠ '_' := fun heq => h (heq ▸ hc)
    by_cases hhyphen : c = '-' <;> simp [hhyphen, hne]
  rw [nameOf, if_neg hhyphen, haria, hxMember, dropLead?_append]
  dsimp only
  rw [String.toList_ofList, hback, String.ofList_toList]

/-- A name without hyphens and dots that does not end in an underscore stands for itself. -/
theorem nameOf_plain {name : String} (hhyphen : '-' ∉ name.toList) (hdot : '.' ∉ name.toList)
    (hend : name.toList.getLast? ≠ some '_') : nameOf name = name := by
  rw [nameOf, if_neg hhyphen, dropLead?_eq_none (c := '.') (by decide) hdot,
    dropLead?_eq_none (c := '.') (by decide) hdot]
  exact if_neg hend

/-- An underscore behind a name without hyphens and dots is left out. -/
theorem nameOf_suffix {name : String} (hhyphen : '-' ∉ name.toList) (hdot : '.' ∉ name.toList) :
    nameOf (name ++ "_") = name := by
  have hhyphen : '-' ∉ (name ++ "_").toList := by simp [hhyphen]
  have hdot : '.' ∉ (name ++ "_").toList := by simp [hdot]
  rw [nameOf, if_neg hhyphen, dropLead?_eq_none (c := '.') (by decide) hdot,
    dropLead?_eq_none (c := '.') (by decide) hdot]
  simp

/-! ## Which names share a constructor -/

/-- A name without dots that does not end in an underscore. -/
def IsOrdinary (name : String) : Prop :=
  '.' ∉ name.toList ∧ name.toList.getLast? ≠ some '_'

instance (name : String) : Decidable (IsOrdinary name) :=
  inferInstanceAs (Decidable (_ ∧ _))

/-- A name that counts as hx has this class. -/
theorem nameClass_of_isHx {name : String} (h : Catalog.standard.isHx name = true) :
    Catalog.standard.nameClass name = some .hx :=
  beq_iff_eq.mp h

/-- The prefixed names are `data-` and an hx name. -/
theorem prefixedHx?_eq_some_iff {catalog : Catalog} {name rest : String} :
    prefixedHx? catalog name = some rest ↔
      catalog.isHx ("hx-" ++ rest) = true ∧ name = "data-" ++ ("hx-" ++ rest) := by
  constructor
  · intro h
    obtain ⟨hx, hdata, h⟩ := Option.bind_eq_some_iff.mp h
    obtain ⟨_, hguard, hrest⟩ := Option.bind_eq_some_iff.mp h
    rw [Ascii.dropLead?_eq_some_iff] at hdata hrest
    subst hdata hrest
    by_cases hisHx : catalog.isHx ("hx-" ++ rest) = true
    · exact ⟨hisHx, rfl⟩
    · rw [guard, if_neg hisHx] at hguard
      cases hguard
  · rintro ⟨hisHx, rfl⟩
    refine Option.bind_eq_some_iff.mpr ⟨"hx-" ++ rest, Ascii.dropLead?_eq_some_iff.mpr rfl, ?_⟩
    exact Option.bind_eq_some_iff.mpr ⟨(), if_pos hisHx, Ascii.dropLead?_eq_some_iff.mpr rfl⟩

/-- An htmx attribute has the same constructor with a leading `data-`. -/
theorem ofName_data {name : String} (h : Catalog.standard.isHx name = true) :
    ofName Catalog.standard ("data-" ++ name) = ofName Catalog.standard name := by
  have hclass := nameClass_of_isHx h
  obtain ⟨rest, rfl, -⟩ := exists_rest_of_hx (mem_namesOf hclass)
  rw [ofName, nameClass_data, ofName, hclass]
  dsimp only
  rw [prefixedHx?_eq_some_iff.mpr ⟨h, rfl⟩, dropLead?_append]
  rfl

/-- The name is read off its constructor, but for the `data-` in front of an htmx attribute. -/
theorem nameOf_ofName {name : String} (h : IsOrdinary name) :
    nameOf (ofName Catalog.standard name) = name ∨
      (Catalog.standard.isHx (nameOf (ofName Catalog.standard name)) = true ∧
        name = "data-" ++ nameOf (ofName Catalog.standard name)) := by
  obtain ⟨hdot, hend⟩ := h
  cases hclass : Catalog.standard.nameClass name with
  | some kind =>
      have hmem := mem_namesOf hclass
      refine Or.inl ?_
      rw [ofName, hclass]
      cases kind with
      | suffix => exact nameOf_suffix (hyphen_not_mem_reserved name hmem) hdot
      | aria =>
          obtain ⟨rest, rfl, hhyphen⟩ := exists_rest_of_aria hmem
          dsimp only
          rw [dropLead?_append, Option.getD_some, nameOf_aria hhyphen]
      | hx =>
          obtain ⟨rest, rfl, hunderscore⟩ := exists_rest_of_hx hmem
          dsimp only
          rw [dropLead?_append, Option.getD_some, nameOf_hxMember hunderscore]
  | none =>
      cases hprefixed : prefixedHx? Catalog.standard name with
      | some rest =>
          -- The htmx attribute is registered, so that it is the one that is read back.
          obtain ⟨hisHx, rfl⟩ := prefixedHx?_eq_some_iff.mp hprefixed
          have hunderscore : '_' ∉ rest.toList := by
            simpa using (hx_form _ (mem_namesOf (nameClass_of_isHx hisHx))).2
          refine Or.inr ?_
          rw [ofName, hclass]
          dsimp only
          rw [hprefixed, nameOf_hxMember hunderscore]
          exact ⟨hisHx, rfl⟩
      | none =>
          refine Or.inl ?_
          rw [ofName, hclass]
          dsimp only
          rw [hprefixed]
          by_cases hhyphen : '-' ∈ name.toList
          · rw [if_pos (List.contains_iff_mem.mpr hhyphen), nameOf_quoted hhyphen]
          · rw [if_neg (List.contains_iff_mem.not.mpr hhyphen), nameOf_plain hhyphen hdot hend]

/-- Two names share a constructor when they are the same, or both are one htmx attribute, with or
without a leading `data-`. -/
theorem ofName_eq_iff {name other : String} (h : IsOrdinary name) (hother : IsOrdinary other) :
    ofName Catalog.standard name = ofName Catalog.standard other ↔
      name = other ∨ ∃ hx, Catalog.standard.isHx hx = true ∧
        name ∈ [hx, "data-" ++ hx] ∧ other ∈ [hx, "data-" ++ hx] := by
  constructor
  · intro heq
    have hback := nameOf_ofName h
    have hotherBack := nameOf_ofName hother
    rw [heq] at hback
    generalize nameOf (ofName Catalog.standard other) = hx at hback hotherBack
    rcases hback with rfl | ⟨hisHx, rfl⟩
    · rcases hotherBack with rfl | ⟨hisHx, rfl⟩
      · exact Or.inl rfl
      · exact Or.inr ⟨hx, hisHx, by simp, by simp⟩
    · rcases hotherBack with rfl | ⟨-, rfl⟩
      · exact Or.inr ⟨hx, hisHx, by simp, by simp⟩
      · exact Or.inl rfl
  · have hsame : ∀ hx, Catalog.standard.isHx hx = true → ∀ member ∈ [hx, "data-" ++ hx],
        ofName Catalog.standard member = ofName Catalog.standard hx := by
      intro hx hisHx member hmember
      rcases List.mem_pair.mp hmember with rfl | rfl
      · rfl
      · exact ofName_data hisHx
    rintro (rfl | ⟨hx, hisHx, hname, hother⟩)
    · rfl
    · rw [hsame hx hisHx name hname, hsame hx hisHx other hother]

/-- An htmx attribute collides with its form with `data-`, and not with what looks like a third
form. -/
theorem ofName_eq_iff_push_url :
    IsOrdinary "hx-push-url" ∧ IsOrdinary "data-hx-push-url" ∧ IsOrdinary "data-push-url" ∧
      ofName Catalog.standard "data-hx-push-url" = ofName Catalog.standard "hx-push-url" ∧
      ofName Catalog.standard "data-push-url" ≠ ofName Catalog.standard "hx-push-url" := by
  have hplain : IsOrdinary "hx-push-url" := by decide
  have hdata : IsOrdinary "data-hx-push-url" := by decide
  have hother : IsOrdinary "data-push-url" := by decide
  have hisHx : Catalog.standard.isHx "hx-push-url" = true := by
    rw [Catalog.isHx, nameClass_standard]
    decide +kernel
  refine ⟨hplain, hdata, hother, (ofName_eq_iff hdata hplain).mpr
    (Or.inr ⟨"hx-push-url", hisHx, by decide, by decide⟩), fun heq => ?_⟩
  rcases (ofName_eq_iff hother hplain).mp heq with hsame | ⟨hx, -, hname, hlast⟩
  · simp at hsame
  · rcases List.mem_pair.mp hlast with rfl | hlast
    · simp at hname
    · simpa using congrArg (·.toList.head?) hlast

end Constructor

end HtmlTemplate
