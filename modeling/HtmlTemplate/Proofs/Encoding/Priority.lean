import HtmlTemplate.Proofs.Encoding.Validity

/-!
# The encoding that a page is read in

`decodeText` tries one encoding after the other, and each attempt looks for a byte order mark again.
`Encoding.Chosen` says without attempts which text comes out: a mark decides, then whether the bytes
are UTF-8, then the declared encoding, then the default. `decodeText_chosen` shows that the two
agree, and that what a page declares counts only without a mark and when the bytes are not UTF-8.

Neither depends on how encodings other than UTF-8 are read, so both are about `decodeTextBy`, for
any decoder that reads UTF-8 as `Utf8.decode` does.
-/

namespace HtmlTemplate

namespace Encoding

/-- The encodings that have a byte order mark, each with its mark. -/
def marks : List (Encoding × List UInt8) :=
  [(utf8, [0xEF, 0xBB, 0xBF]), (utf16 false, [0xFF, 0xFE]), (utf16 true, [0xFE, 0xFF])]

/-- No byte order mark stands at the start of the bytes. -/
def Unmarked (bytes : List UInt8) : Prop :=
  ∀ entry ∈ marks, ¬ entry.2 <+: bytes

/-- The bytes are not those of any text in UTF-8. -/
def Foreign (bytes : List UInt8) : Prop :=
  ∀ page, bytes ≠ bytesOf page

/-- The text that bytes stand for, given the label of the encoding that they declare, if any. -/
inductive Chosen (decoder : Decoder) (bytes : List UInt8) (hint : Option String) :
    String → Prop where
  /-- A mark says how the bytes behind it are read, be they faulty or not. -/
  | marked {encoding : Encoding} {mark rest : List UInt8} (hmark : (encoding, mark) ∈ marks)
      (hbytes : bytes = mark ++ rest) : Chosen decoder bytes hint (textOf (decoder encoding rest))
  /-- Without a mark, a text in UTF-8 is read as that text. -/
  | page {page : String} (hunmarked : Unmarked bytes) (hbytes : bytes = bytesOf page) :
      Chosen decoder bytes hint page
  /-- Other bytes are read in the declared encoding if its label is known. -/
  | declared {label : String} {encoding : Encoding} (hunmarked : Unmarked bytes)
      (hforeign : Foreign bytes) (hhint : hint = some label)
      (hlabel : ofLabel? label = some encoding) :
      Chosen decoder bytes hint (textOf (decoder encoding bytes))
  /-- If it is not known or none is declared, they are read as windows-1252. -/
  | undeclared (hunmarked : Unmarked bytes) (hforeign : Foreign bytes)
      (hlabel : ∀ label, hint = some label → ofLabel? label = none) :
      Chosen decoder bytes hint (textOf (decoder (codePage CodePage.windows1252) bytes))

end Encoding

open Encoding

variable {decoder : Decoder} {bytes rest : List UInt8} {hint : Option String}
  {encoding : Encoding}

/-! ## Byte order marks -/

namespace Encoding

/-- The mark that is found is one at the start of the bytes. -/
theorem byteOrderMark?_eq_some_iff :
    byteOrderMark? bytes = some (encoding, rest) ↔
      ∃ mark, (encoding, mark) ∈ marks ∧ bytes = mark ++ rest := by
  constructor
  · intro h
    rw [byteOrderMark?.eq_def] at h
    split at h <;> cases h
    · exact ⟨[0xEF, 0xBB, 0xBF], by simp [marks], rfl⟩
    · exact ⟨[0xFF, 0xFE], by simp [marks], rfl⟩
    · exact ⟨[0xFE, 0xFF], by simp [marks], rfl⟩
  · rintro ⟨mark, hmark, rfl⟩
    simp only [marks, List.mem_cons, Prod.mk.injEq, List.not_mem_nil, or_false] at hmark
    rcases hmark with ⟨rfl, rfl⟩ | ⟨rfl, rfl⟩ | ⟨rfl, rfl⟩ <;> rfl

/-- No mark is found exactly when none stands at the start. -/
theorem byteOrderMark?_eq_none_iff : byteOrderMark? bytes = none ↔ Unmarked bytes := by
  rw [Option.eq_none_iff_forall_ne_some, Unmarked]
  constructor
  · rintro h ⟨encoding, mark⟩ hmark ⟨rest, hrest⟩
    exact h (encoding, rest) (byteOrderMark?_eq_some_iff.mpr ⟨mark, hmark, hrest.symm⟩)
  · rintro h ⟨encoding, rest⟩ hfound
    obtain ⟨mark, hmark, hbytes⟩ := byteOrderMark?_eq_some_iff.mp hfound
    exact h (encoding, mark) hmark ⟨rest, hbytes.symm⟩

/-- Behind a mark, every attempt reads the same. -/
theorem decodeBy_of_mark (h : byteOrderMark? bytes = some (encoding, rest)) (tried : Encoding) :
    tried.decodeBy decoder bytes = decoder encoding rest := by
  simp only [decodeBy, h]

/-- Without a mark, each attempt reads in its own encoding. -/
theorem decodeBy_of_unmarked (h : Unmarked bytes) (tried : Encoding) :
    tried.decodeBy decoder bytes = decoder tried bytes := by
  simp only [decodeBy, byteOrderMark?_eq_none_iff.mpr h]

end Encoding

/-! ## The text that comes out -/

/-- Where all attempts read the same, it does not matter which one is the last. -/
theorem decodeTextBy_of_mark (h : byteOrderMark? bytes = some (encoding, rest))
    (hint : Option String) :
    (decodeTextBy decoder bytes hint).1 = textOf (decoder encoding rest) := by
  simp only [decodeTextBy, decodeBy_of_mark h]
  split
  · cases hint.bind ofLabel? <;> rfl
  · rfl

section

variable (hutf8 : decoder utf8 = Utf8.decode)

include hutf8

/-- The attempt at UTF-8 fails on bytes that are not those of a text. -/
theorem isFaulty_of_foreign (hforeign : Foreign bytes) : isFaulty (decoder utf8 bytes) = true := by
  rw [hutf8, ← Bool.not_eq_false, isFaulty_decode_iff, not_exists]
  exact hforeign

variable (hunmarked : Unmarked bytes)

include hunmarked

/-- Without a mark, the bytes of a text are read as that text. -/
theorem decodeTextBy_of_page {page : String} (hbytes : bytes = bytesOf page)
    (hint : Option String) : (decodeTextBy decoder bytes hint).1 = page := by
  have hfaulty : isFaulty (Utf8.decode bytes) = false := isFaulty_decode_iff.mpr ⟨page, hbytes⟩
  simp only [decodeTextBy, decodeBy_of_unmarked hunmarked, hutf8, hfaulty, Bool.false_eq_true,
    if_false]
  rw [hbytes, textOf_decode_bytesOf]

/-- Without a mark, other bytes are read in the declared encoding if its label is known. -/
theorem decodeTextBy_of_label (hforeign : Foreign bytes)
    (hlabel : hint.bind ofLabel? = some encoding) :
    (decodeTextBy decoder bytes hint).1 = textOf (decoder encoding bytes) := by
  simp only [decodeTextBy, decodeBy_of_unmarked hunmarked, isFaulty_of_foreign hutf8 hforeign,
    hlabel, if_true]

/-- Without a mark and a known label, other bytes are read in the default encoding. -/
theorem decodeTextBy_of_no_label (hforeign : Foreign bytes) (hlabel : hint.bind ofLabel? = none) :
    (decodeTextBy decoder bytes hint).1 = textOf (decoder fallback bytes) := by
  simp only [decodeTextBy, decodeBy_of_unmarked hunmarked, isFaulty_of_foreign hutf8 hforeign,
    hlabel, if_true]

end

/-- The text that comes out is chosen. -/
theorem chosen_decodeTextBy (hutf8 : decoder utf8 = Utf8.decode) (bytes : List UInt8)
    (hint : Option String) : Chosen decoder bytes hint (decodeTextBy decoder bytes hint).1 := by
  cases hmark : byteOrderMark? bytes with
  | some found =>
      obtain ⟨encoding, rest⟩ := found
      obtain ⟨mark, hmem, hbytes⟩ := byteOrderMark?_eq_some_iff.mp hmark
      rw [decodeTextBy_of_mark hmark]
      exact .marked hmem hbytes
  | none =>
      have hunmarked := byteOrderMark?_eq_none_iff.mp hmark
      by_cases hpage : ∃ page, bytes = bytesOf page
      · obtain ⟨page, hbytes⟩ := hpage
        rw [decodeTextBy_of_page hutf8 hunmarked hbytes]
        exact .page hunmarked hbytes
      · have hforeign : Foreign bytes := not_exists.mp hpage
        cases hlabel : hint.bind ofLabel? with
        | some encoding =>
            obtain ⟨label, hhint, hknown⟩ := Option.bind_eq_some_iff.mp hlabel
            rw [decodeTextBy_of_label hutf8 hunmarked hforeign hlabel]
            exact .declared hunmarked hforeign hhint hknown
        | none =>
            rw [decodeTextBy_of_no_label hutf8 hunmarked hforeign hlabel]
            exact .undeclared hunmarked hforeign (Option.bind_eq_none_iff.mp hlabel)

/-- No other text is chosen. -/
theorem Encoding.Chosen.eq_decodeTextBy (hutf8 : decoder utf8 = Utf8.decode) {text : String}
    (h : Chosen decoder bytes hint text) : (decodeTextBy decoder bytes hint).1 = text := by
  cases h with
  | marked hmark hbytes =>
      exact decodeTextBy_of_mark (byteOrderMark?_eq_some_iff.mpr ⟨_, hmark, hbytes⟩) hint
  | page hunmarked hbytes => exact decodeTextBy_of_page hutf8 hunmarked hbytes hint
  | declared hunmarked hforeign hhint hlabel =>
      exact decodeTextBy_of_label hutf8 hunmarked hforeign
        (Option.bind_eq_some_iff.mpr ⟨_, hhint, hlabel⟩)
  | undeclared hunmarked hforeign hlabel =>
      exact decodeTextBy_of_no_label hutf8 hunmarked hforeign (Option.bind_eq_none_iff.mpr hlabel)

/-- The text of a page is the one that its mark, its being UTF-8, the encoding that it declares and
the default choose, in this order. What it declares makes a difference only to bytes that have no
mark and are not UTF-8. All this holds however encodings other than UTF-8 are read, and so of
`decodeText`, however it reads those of East Asia. -/
theorem decodeText_chosen (decoder : Decoder) (hutf8 : decoder utf8 = Utf8.decode)
    (bytes : List UInt8) (hint : Option String) :
    (∀ text, (decodeTextBy decoder bytes hint).1 = text ↔ Chosen decoder bytes hint text) ∧
      (∀ other, (decodeTextBy decoder bytes other).1 ≠ (decodeTextBy decoder bytes hint).1 →
        Unmarked bytes ∧ Foreign bytes) ∧
      ∀ eastern, decodeText bytes hint eastern = decodeTextBy (decodeRaw eastern) bytes hint := by
  refine ⟨fun text => ⟨?_, fun h => h.eq_decodeTextBy hutf8⟩, fun other hne => ?_,
    fun eastern => rfl⟩
  · rintro rfl
    exact chosen_decodeTextBy hutf8 bytes hint
  · have hmark : byteOrderMark? bytes = none := by
      rw [Option.eq_none_iff_forall_ne_some]
      rintro ⟨encoding, rest⟩ hmark
      exact hne (by rw [decodeTextBy_of_mark hmark, decodeTextBy_of_mark hmark])
    have hunmarked := byteOrderMark?_eq_none_iff.mp hmark
    refine ⟨hunmarked, fun page hbytes => hne ?_⟩
    rw [decodeTextBy_of_page hutf8 hunmarked hbytes, decodeTextBy_of_page hutf8 hunmarked hbytes]

/-- Behind the mark of UTF-16 a byte is cut off. It stays a fault, though the label of an encoding
without faulty bytes is given. -/
theorem decodeText_chosen_cut :
    decodeRaw asciiOnly utf8 = Utf8.decode ∧
      Chosen (decodeRaw asciiOnly) [0xFF, 0xFE, 0x41] (some "koi8-r") "\ufffd" ∧
      (decodeText [0xFF, 0xFE, 0x41] (some "koi8-r")).1 = "\ufffd" := by
  have hutf8 : decodeRaw asciiOnly utf8 = Utf8.decode := rfl
  have htext : textOf (decodeRaw asciiOnly (utf16 false) [0x41]) = "\ufffd" := by decide
  have hchosen : Chosen (decodeRaw asciiOnly) [0xFF, 0xFE, 0x41] (some "koi8-r") "\ufffd" := by
    rw [← htext]
    exact .marked (show (utf16 false, [0xFF, 0xFE]) ∈ marks by simp [marks]) rfl
  obtain ⟨hiff, -, heq⟩ :=
    decodeText_chosen (decodeRaw asciiOnly) hutf8 [0xFF, 0xFE, 0x41] (some "koi8-r")
  exact ⟨hutf8, hchosen, heq asciiOnly ▸ (hiff _).mpr hchosen⟩

end HtmlTemplate
