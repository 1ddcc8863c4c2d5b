import HtmlTemplate.Proofs.Literal.Variant

/-!
# Tags of variants

A variant is a back quote and a tag. The upper case of the two request methods confuses no values:
the tag of a variant folds to what the value folds to (`fold_spell_fold`), so that values with one
variant have one fold. `ofVariant_identifies` says which values a variant stands for, and what its
tag looks like.
-/

namespace HtmlTemplate

/-! ## Lower case -/

namespace Ascii

/-- No character in lower case is a letter in upper case. -/
theorem isUpper_toLower (c : Char) : c.toLower.isUpper = false := by
  by_cases hupper : c.val ≥ 'A'.val ∧ c.val ≤ 'Z'.val
  · rw [show c.toLower = _ from dif_pos hupper]
    have hlow : 65 ≤ c.val.toNat := hupper.1
    have hhigh : c.val.toNat ≤ 90 := hupper.2
    refine decide_eq_false fun h => ?_
    have hcode : (c.val + 32).toNat ≤ 90 := h.2
    rw [UInt32.toNat_add] at hcode
    change (c.val.toNat + 32) % 2 ^ 32 ≤ 90 at hcode
    omega
  · rw [show c.toLower = c from dif_neg hupper]
    exact decide_eq_false hupper

/-- A character in lower case stays as it is. -/
theorem toLower_toLower (c : Char) : c.toLower.toLower = c.toLower :=
  dif_neg (of_decide_eq_false (isUpper_toLower c))

end Ascii

namespace Literal

/-! ## Folding -/

/-- A folded character stays as it is when it is folded again. -/
theorem foldChar_toLower_foldChar (c : Char) :
    foldChar (foldChar c.toLower).toLower = foldChar c.toLower := by
  by_cases hhyphen : c.toLower = '-'
  · rw [hhyphen]
    decide
  · have hkept : foldChar c.toLower = c.toLower := if_neg hhyphen
    rw [hkept, Ascii.toLower_toLower, hkept]

/-- A value is folded character by character. -/
theorem toList_fold (value : String) :
    (fold value).toList = value.toList.map fun c => foldChar c.toLower := by
  rw [fold, String.toList_ofList, Ascii.toList_lower, List.map_map]
  rfl

/-- A folded value stays as it is when it is folded again. -/
theorem fold_fold (value : String) : fold (fold value) = fold value := by
  rw [← String.toList_inj, toList_fold, toList_fold, List.map_map]
  refine List.map_congr_left fun c _ => ?_
  rw [Function.comp_apply, foldChar_toLower_foldChar]

/-- Folding keeps the length of a value. -/
theorem length_fold (value : String) : (fold value).length = value.length := by
  rw [← String.length_toList, toList_fold, List.length_map, String.length_toList]

/-- A folded value has no hyphen and no letter in upper case. -/
theorem of_mem_fold {value : String} {c : Char} (h : c ∈ (fold value).toList) :
    c ≠ '-' ∧ c.isUpper = false := by
  rw [toList_fold] at h
  obtain ⟨d, -, rfl⟩ := List.mem_map.mp h
  by_cases hhyphen : d.toLower = '-'
  · rw [hhyphen]
    decide
  · rw [show foldChar d.toLower = d.toLower from if_neg hhyphen]
    exact ⟨hhyphen, Ascii.isUpper_toLower d⟩

/-! ## Tags -/

/-- What holds of the two request methods in upper case, and of a word as it is, holds of how the
word is spelled. -/
theorem spell_elim {motive : String → String → Prop} {word : String} (get : motive "get" "GET")
    (post : motive "post" "POST") (other : motive word word) : motive word (spell word) := by
  rw [spell]
  split
  next hmethod =>
    rcases hmethod with rfl | rfl
    · rw [show Ascii.upper "get" = "GET" by decide]
      exact get
    · rw [show Ascii.upper "post" = "POST" by decide]
      exact post
  next => exact other

/-- The tag of a variant folds to what the value folds to, so that nothing is lost by the upper case
of the request methods. -/
theorem fold_spell_fold (value : String) : fold (spell (fold value)) = fold value :=
  spell_elim (motive := fun word tag => fold tag = word) (by decide) (by decide) (fold_fold value)

/-- The tag of a variant is as long as the value. -/
theorem length_spell_fold (value : String) : (spell (fold value)).length = value.length := by
  rw [← length_fold value]
  exact spell_elim (motive := fun word tag => tag.length = word.length) (by decide) (by decide)
    rfl

/-- The tag of a variant has no hyphen. -/
theorem hyphen_not_mem_spell_fold (value : String) : '-' ∉ (spell (fold value)).toList :=
  spell_elim (motive := fun _ tag => '-' ∉ tag.toList) (by decide) (by decide)
    fun hhyphen => (of_mem_fold hhyphen).1 rfl

/-- The tag of a variant has letters in upper case only as a request method. -/
theorem spell_fold_cases (value : String) :
    spell (fold value) = "GET" ∨ spell (fold value) = "POST" ∨
      ∀ c ∈ (spell (fold value)).toList, c.isUpper = false :=
  spell_elim
    (motive := fun _ tag => tag = "GET" ∨ tag = "POST" ∨ ∀ c ∈ tag.toList, c.isUpper = false)
    (.inl rfl) (.inr (.inl rfl)) (.inr (.inr fun _ hc => (of_mem_fold hc).2))

/-- Values have one variant exactly when they are equal in lower case with underscores for hyphens.
The variant of a value is a back quote and a tag, as long as the value and without hyphens, whose
letters are in lower case unless it is one of the two request methods; and the tag has the variant
of the value itself. -/
theorem ofVariant_identifies :
    (∀ value other, ofVariant value = ofVariant other ↔ fold value = fold other) ∧
      ∀ value, ∃ tag, ofVariant value = "\x60" ++ tag ∧ tag.length = value.length ∧
        '-' ∉ tag.toList ∧
        (tag = "GET" ∨ tag = "POST" ∨ ∀ c ∈ tag.toList, c.isUpper = false) ∧
        ofVariant tag = ofVariant value := by
  constructor
  · intro value other
    constructor
    · intro heq
      rw [ofVariant_eq_fold, ofVariant_eq_fold, String.append_right_inj] at heq
      rw [← fold_spell_fold value, heq, fold_spell_fold]
    · intro hfold
      rw [ofVariant_eq_fold, ofVariant_eq_fold, hfold]
  · intro value
    refine ⟨spell (fold value), ofVariant_eq_fold value, length_spell_fold value,
      hyphen_not_mem_spell_fold value, spell_fold_cases value, ?_⟩
    rw [ofVariant_eq_fold, fold_spell_fold, ← ofVariant_eq_fold]

/-- The methods are told from each other, whatever their case, and from a value that begins like
one. -/
example : ofVariant "Get" = "\x60GET" ∧ ofVariant "get-" = "\x60get_" ∧
    ofVariant "Post" ≠ ofVariant "Get" := by
  decide +kernel

end Literal

end HtmlTemplate
