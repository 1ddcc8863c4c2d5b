/-!
# ASCII letters and blanks

Markup names compare without regard to the case of ASCII letters, and only ASCII blanks separate
them. `Ascii.lower` and `Ascii.upper` change the case of a whole text, `Ascii.sameLetters` compares
two texts character by character, and `Ascii.isBlank` recognises the five blanks of HTML.
-/

namespace HtmlTemplate.Ascii

/-- `lower s` is `s` with the letters `A` to `Z` in lower case and everything else unchanged. -/
def lower (s : String) : String :=
  String.ofList (s.toList.map Char.toLower)

/-- `upper s` is `s` with the letters `a` to `z` in upper case and everything else unchanged. -/
def upper (s : String) : String :=
  String.ofList (s.toList.map Char.toUpper)

/-- `sameLetters s t` says that `s` and `t` are equal up to the case of ASCII letters. -/
def sameLetters (s t : String) : Bool :=
  s.toList.isEqv t.toList fun c d => c.toLower == d.toLower

/-- `dropLead? lead s` is what follows `lead` in `s`, or `none` when `s` does not start with it. -/
def dropLead? (lead s : String) : Option String :=
  (lead.toList.isPrefixOf? s.toList).map String.ofList

/-- The blanks of HTML: tab, line feed, form feed, carriage return and space. -/
def isBlank (c : Char) : Bool :=
  c == '\t' || c == '\n' || c == '\x0c' || c == '\r' || c == ' '

/-- Lower case is taken character by character. -/
@[simp] theorem toList_lower (s : String) : (lower s).toList = s.toList.map Char.toLower := by
  simp [lower]

/-- Upper case is taken character by character. -/
@[simp] theorem toList_upper (s : String) : (upper s).toList = s.toList.map Char.toUpper := by
  simp [upper]

/-- Two texts have the same letters when they are equal in lower case. -/
theorem sameLetters_iff {s t : String} : sameLetters s t = true ↔ lower s = lower t := by
  have key : ∀ a b : List Char,
      a.isEqv b (fun c d => c.toLower == d.toLower) = true ↔
        a.map Char.toLower = b.map Char.toLower := by
    intro a
    induction a with
    | nil => intro b; cases b <;> simp [List.isEqv]
    | cons c a ih => intro b; cases b <;> simp [List.isEqv, ih]
  rw [sameLetters, key, lower, lower]
  exact ⟨fun h => h ▸ rfl, fun h => by simpa using congrArg String.toList h⟩

/-- What is left behind a prefix is what completes it. -/
theorem isPrefixOf?_eq_some_iff {lead s rest : List Char} :
    lead.isPrefixOf? s = some rest ↔ s = lead ++ rest := by
  induction lead generalizing s with
  | nil => exact Option.some_inj
  | cons c lead ih =>
    cases s with
    | nil => exact ⟨nofun, nofun⟩
    | cons d s =>
      show (if c == d then lead.isPrefixOf? s else none) = some rest ↔ _
      by_cases h : c = d
      · simp [h, ih]
      · simp [h, Ne.symm h]

/-- What follows a lead is the text without it. -/
theorem dropLead?_eq_some_iff {lead s rest : String} :
    dropLead? lead s = some rest ↔ s = lead ++ rest := by
  simp only [dropLead?, Option.map_eq_some_iff, isPrefixOf?_eq_some_iff, String.ext_iff,
    String.toList_append]
  exact ⟨fun ⟨tail, h, hrest⟩ => by simpa [h] using hrest,
    fun h => ⟨rest.toList, h, by simp⟩⟩

end HtmlTemplate.Ascii
