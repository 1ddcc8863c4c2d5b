import HtmlTemplate.Proofs.Rendering.Reader

/-!
# Where string literals end

A string literal is written without escapes, so that a reader takes it to end at the first closing
delimiter. `Literal.ofText_selfDelimiting` says which texts come back: all but those that hold both
a double quote, for which they are put between `{|` and `|}`, and the closing delimiter `|}`. Such a
text is cut short, whatever stands behind the literal.
-/

namespace HtmlTemplate

namespace Source

/-- An input that has `stop` somewhere is cut there or before. -/
theorem exists_cut {stop : List Char} (hstop : stop ≠ []) (before behind : List Char) :
    ∃ front rest, cut stop (before ++ stop ++ behind) = some (front, rest) ∧ front <+: before := by
  induction before with
  | nil =>
      obtain ⟨first, others, rfl⟩ := List.exists_cons_of_ne_nil hstop
      refine ⟨[], behind, ?_, List.prefix_refl _⟩
      rw [List.nil_append, List.cons_append, cut, ← List.cons_append, isPrefixOf?_append]
  | cons c before ih =>
      obtain ⟨front, rest, hcut, hprefix⟩ := ih
      rw [List.cons_append, List.cons_append, cut]
      cases stop.isPrefixOf? (c :: (before ++ stop ++ behind)) with
      | some tail => exact ⟨[], tail, rfl, List.nil_prefix⟩
      | none =>
          exact ⟨c :: front, rest, by rw [hcut]; rfl, (List.prefix_cons_inj c).mpr hprefix⟩

/-- The literal of a text that cannot be quoted is read as a shorter text. -/
theorem readText_of_not_quotable {text : String} (h : ¬ Quotable text) (rest : List Char) :
    ∃ front behind, readText ((Literal.ofText text).toList ++ rest) = some (front, behind) ∧
      front.length < text.length := by
  obtain ⟨hquote, before, behind, htext⟩ := not_not.mp h
  rcases toList_ofText_cases text with ⟨hnone, -⟩ | ⟨-, hliteral⟩
  · exact absurd hquote hnone
  · -- The first `|}` stands in the text itself.
    obtain ⟨front, tail, hcut, hprefix⟩ := exists_cut (List.cons_ne_nil '|' ['}']) before
      (behind ++ ['|', '}'] ++ rest)
    have hinput : before ++ ['|', '}'] ++ (behind ++ ['|', '}'] ++ rest) =
        text.toList ++ ['|', '}'] ++ rest := by
      rw [← htext]
      simp only [List.append_assoc]
    rw [hinput] at hcut
    refine ⟨String.ofList front, tail, ?_, ?_⟩
    · rw [hliteral, List.cons_append, List.cons_append, List.cons_append, List.cons_append,
        readText, hcut]
      rfl
    · have hlength := hprefix.length_le
      rw [String.length_ofList, ← String.length_toList, ← htext]
      simp only [List.length_append, List.length_cons, List.length_nil]
      omega

/-- A text comes back from its literal when it can be quoted, and else before no rest. -/
theorem readText_ofText_iff (text : String) (rest : List Char) :
    readText ((Literal.ofText text).toList ++ rest) = some (text, rest) ↔ Quotable text := by
  constructor
  · intro hread
    by_contra hquotable
    obtain ⟨front, behind, hcut, hlength⟩ := readText_of_not_quotable hquotable rest
    rw [hread, Option.some.injEq, Prod.mk.injEq] at hcut
    exact absurd (congrArg String.length hcut.1) (Nat.ne_of_gt hlength)
  · exact fun hquotable => readText_append hquotable rest

end Source

namespace Literal

open Source

/-- A text comes back from the front of every input that begins with its literal exactly when it
does not hold both a double quote and `|}`; otherwise it comes back from none. A literal is written
the same behind everything, and the search for the byte of the double quote, by which its delimiters
are picked, finds it exactly in the texts that hold the character. -/
theorem ofText_selfDelimiting (text : String) :
    ((∀ rest : String, readText (ofText text ++ rest).toList = some (text, rest.toList)) ↔
        ¬ ('"' ∈ text.toList ∧ ['|', '}'] <:+: text.toList)) ∧
      ((∃ rest : String, readText (ofText text ++ rest).toList = some (text, rest.toList)) ↔
        ¬ ('"' ∈ text.toList ∧ ['|', '}'] <:+: text.toList)) ∧
      (∀ out, pushText out text = out ++ ofText text) ∧
      (hasQuote text = true ↔ '"' ∈ text.toList) := by
  have hread : ∀ rest : String,
      readText (ofText text ++ rest).toList = some (text, rest.toList) ↔ Quotable text := by
    intro rest
    rw [String.toList_append, readText_ofText_iff]
  refine ⟨⟨fun h => (hread "").mp (h ""), fun h rest => (hread rest).mpr h⟩,
    ⟨fun ⟨rest, h⟩ => (hread rest).mp h, fun h => ⟨"", (hread "").mpr h⟩⟩,
    fun out => pushText_eq out text, hasQuote_iff⟩

/-- A bar at the end of a text does not join the one behind it, and a text with both delimiters is
cut short. -/
example : readText (ofText "\"|").toList = some ("\"|", []) ∧
    readText (ofText "\"|\x7d").toList = some ("\"", "|\x7d".toList) := by
  decide +kernel

end Literal

end HtmlTemplate
