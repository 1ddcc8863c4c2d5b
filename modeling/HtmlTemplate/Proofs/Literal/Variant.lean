import HtmlTemplate.Literal

/-!
# Variants of one value

A variant forgets the case of letters and takes a hyphen for an underscore. `Literal.fold` is what
it keeps of a value. The two request methods go back to upper case, which tells no values apart that
fold to the same text: `ofVariant_eq_fold` gives the variant of a value from its fold alone.
-/

namespace HtmlTemplate.Literal

/-- An underscore for a hyphen, and any other character as it is. -/
def foldChar (c : Char) : Char :=
  if c = '-' then '_' else c

/-- A value in lower case with underscores for hyphens. -/
def fold (value : String) : String :=
  String.ofList ((Ascii.lower value).toList.map foldChar)

/-- Only the underscore is what a hyphen becomes. -/
theorem foldChar_eq_iff {c d : Char} (hd : d ≠ '-' ∧ d ≠ '_') : foldChar c = d ↔ c = d := by
  rw [foldChar]
  split
  · next hc => exact ⟨fun h => absurd h.symm hd.2, fun h => absurd (h.symm.trans hc) hd.1⟩
  · exact Iff.rfl

/-- A list without hyphens and underscores is what only the same list becomes. -/
theorem map_foldChar_eq_iff {cs word : List Char} (hword : ∀ c ∈ word, c ≠ '-' ∧ c ≠ '_') :
    cs.map foldChar = word ↔ cs = word := by
  induction cs generalizing word with
  | nil => exact Iff.rfl
  | cons c cs ih =>
      cases word with
      | nil => exact ⟨nofun, nofun⟩
      | cons d word =>
          obtain ⟨hd, hword⟩ := List.forall_mem_cons.mp hword
          rw [List.map_cons, List.cons.injEq, List.cons.injEq, foldChar_eq_iff hd, ih hword]

/-- A value folds to a word without hyphens and underscores when it is that word in lower case. -/
theorem fold_eq_iff {value word : String} (hword : ∀ c ∈ word.toList, c ≠ '-' ∧ c ≠ '_') :
    fold value = word ↔ Ascii.lower value = word := by
  rw [← String.toList_inj, ← String.toList_inj, fold, String.toList_ofList,
    map_foldChar_eq_iff hword]

/-- How a variant spells a word: the two request methods are in upper case. -/
def spell (word : String) : String :=
  if word = "get" ∨ word = "post" then Ascii.upper word else word

/-- What a value folds to decides what its variant is. -/
theorem ofVariant_eq_fold (value : String) : ofVariant value = "\x60" ++ spell (fold value) := by
  have hget : fold value = "get" ↔ Ascii.lower value = "get" := fold_eq_iff (by simp)
  have hpost : fold value = "post" ↔ Ascii.lower value = "post" := fold_eq_iff (by simp)
  by_cases hmethod : Ascii.lower value = "get" ∨ Ascii.lower value = "post"
  · rw [ofVariant, if_pos hmethod, spell, if_pos (hmethod.imp hget.mpr hpost.mpr)]
    -- Neither method has a hyphen, in lower case or in upper case.
    rcases hmethod with hlower | hlower
    · rw [hget.mpr hlower, hlower]
      decide
    · rw [hpost.mpr hlower, hlower]
      decide
  · rw [ofVariant, if_neg hmethod, spell,
      if_neg fun hfold => hmethod (hfold.imp hget.mp hpost.mp), String.ext_iff, fold]
    simp only [String.toList_append, String.toList_ofList]
    rfl

end HtmlTemplate.Literal
