import HtmlTemplate.Conversion
import HtmlTemplate.Proofs.Encoding.Declared
import HtmlTemplate.Proofs.Encoding.Priority

/-!
# Pages that declare nothing

`encoding=` counts only behind the start of an XML declaration, but `charset=` counts wherever it
stands, be it in a `<meta>` tag, in an address, in a script or in plain text. `pageText_undeclared`
says what this means for a page without an XML declaration: the token behind the first `charset=` is
its label, and if the bytes are not UTF-8 they are read in the encoding of that label. Only if there
is no such token or the label is unknown, windows-1252 is left. `pageText_address` is a page without
any declaration that is read in the encoding that an address mentions.
-/

namespace HtmlTemplate

open Encoding

/-- Neither an XML declaration nor a `<meta>` tag begins in the first kilobyte of a page. -/
def Undeclared (page : List UInt8) : Prop :=
  ¬ Occurs sameByte (bytesOf "<?xml") (page.take declarationLimit) ∧
    ¬ Occurs sameByte (bytesOf "<meta") (page.take declarationLimit)

variable {page : List UInt8}

/-- What occurs exactly occurs whatever the case of its letters. -/
theorem Encoding.Occurs.of_exact {key bytes : List UInt8} (h : Occurs (· == ·) key bytes) :
    Occurs sameByte key bytes := by
  obtain ⟨before, word, rest, hbytes, hspells⟩ := h
  refine ⟨before, word, rest, hbytes, hspells.imp fun k b hsame => ?_⟩
  rw [eq_of_beq hsame]
  exact beq_self_eq_true _

/-- Bytes with a faulty part are not UTF-8. -/
theorem foreign_of_isFaulty {bytes : List UInt8} (h : isFaulty (Utf8.decode bytes) = true) :
    Foreign bytes := by
  rintro text rfl
  rw [isFaulty_decode_iff.mpr ⟨text, rfl⟩] at h
  cases h

/-- Without an XML declaration, a page declares what stands behind its first `charset=`. -/
theorem declares_iff_of_no_xml
    (hxml : ¬ Occurs (· == ·) (bytesOf "<?xml") (page.take declarationLimit)) (label : String) :
    declaredCharset? page = some label ↔
      TokenAfter "charset=" (page.take declarationLimit) label := by
  have hnone : ∀ other, ¬ XmlDeclares (page.take declarationLimit) other := by
    rintro other ⟨before, word, rest, hfirst, -⟩
    exact hxml ⟨before, word, rest, hfirst.bytes_eq, hfirst.spells⟩
  rw [declaredCharset?_eq_some_iff]
  constructor
  · rintro (hdeclared | ⟨-, hcharset⟩)
    · exact absurd hdeclared (hnone label)
    · exact hcharset
  · exact .charset hnone

/-- On a page without an XML declaration, whether it has a `<meta>` tag or not, the label is the
token behind the first `charset=` in the first kilobyte, wherever this stands. If the page has no
byte order mark and is not UTF-8, it is read in the encoding of this label if it is known, and as
windows-1252 if it is not or there is none. All this holds however encodings other than UTF-8 are
read, and so of `parseBytes`, however it reads those of East Asia. -/
theorem pageText_undeclared (decoder : Decoder) (hutf8 : decoder utf8 = Utf8.decode)
    (page : List UInt8)
    (hxml : ¬ Occurs (· == ·) (bytesOf "<?xml") (page.take declarationLimit)) :
    (∀ label, declaredCharset? page = some label ↔
        TokenAfter "charset=" (page.take declarationLimit) label) ∧
      (Unmarked page → Foreign page →
        (∀ label encoding, TokenAfter "charset=" (page.take declarationLimit) label →
          ofLabel? label = some encoding →
            pageTextBy decoder page = textOf (decoder encoding page)) ∧
        ((∀ label, TokenAfter "charset=" (page.take declarationLimit) label →
            ofLabel? label = none) →
          pageTextBy decoder page = textOf (decoder (codePage CodePage.windows1252) page))) ∧
      ∀ eastern, parseBytes page eastern = parseText (pageTextBy (decodeRaw eastern) page) := by
  have hdeclared := declares_iff_of_no_xml hxml
  refine ⟨hdeclared, fun hunmarked hforeign => ⟨?_, ?_⟩, fun eastern => rfl⟩
  · intro label encoding hcharset hlabel
    refine decodeTextBy_of_label hutf8 hunmarked hforeign ?_
    rw [(hdeclared label).mpr hcharset, Option.bind_some, hlabel]
  · intro hunknown
    refine decodeTextBy_of_no_label hutf8 hunmarked hforeign ?_
    rw [Option.bind_eq_none_iff]
    exact fun label hlabel => hunknown label ((hdeclared label).mp hlabel)

/-- A page that says nothing of an encoding is read as windows-1252. -/
theorem pageText_undeclared_cafe :
    let page := bytesOf "<p>caf" ++ 0xE9 :: bytesOf "</p>"
    decodeRaw asciiOnly utf8 = Utf8.decode ∧ Undeclared page ∧ Unmarked page ∧ Foreign page ∧
      (∀ label, ¬ TokenAfter "charset=" (page.take declarationLimit) label) ∧
      pageText page = "<p>caf\u00e9</p>" := by
  intro page
  have hutf8 : decodeRaw asciiOnly utf8 = Utf8.decode := rfl
  have hnothing : Undeclared page :=
    ⟨fromFirst?_eq_none_iff.mp (by decide +kernel), fromFirst?_eq_none_iff.mp (by decide +kernel)⟩
  have hunmarked : Unmarked page := byteOrderMark?_eq_none_iff.mp (by decide +kernel)
  have hforeign : Foreign page := foreign_of_isFaulty (by decide +kernel)
  have hcharset : ∀ label, ¬ TokenAfter "charset=" (page.take declarationLimit) label := by
    intro label hlabel
    rw [← valueAfter?_eq_some_iff] at hlabel
    exact absurd hlabel (by rw [show valueAfter? "charset=" _ = none by decide +kernel]; nofun)
  obtain ⟨-, hread, -⟩ :=
    pageText_undeclared (decodeRaw asciiOnly) hutf8 page (mt Occurs.of_exact hnothing.1)
  have htext := (hread hunmarked hforeign).2 fun label hlabel => absurd hlabel (hcharset label)
  refine ⟨hutf8, hnothing, hunmarked, hforeign, hcharset, ?_⟩
  rw [pageText, htext]
  simp only [decodeRaw, CodePage.decode, CodePage.windows1252, String.toList_append]
  decide +kernel

/-- A page without a declaration whose only link mentions an encoding. -/
def addressPage : List UInt8 :=
  bytesOf "<a href=/list?charset=koi8-r>" ++ 0xC0 :: bytesOf "</a>"

/-- The page is neither UTF-8 nor marked and declares nothing, but it is read in the encoding that
the address mentions and not as windows-1252. -/
theorem pageText_address :
    Undeclared addressPage ∧ Unmarked addressPage ∧ Foreign addressPage ∧
      declaredCharset? addressPage = some "koi8-r" ∧
      pageText addressPage = "<a href=/list?charset=koi8-r>\u044e</a>" ∧
      pageText addressPage ≠
        textOf (decodeRaw asciiOnly (codePage CodePage.windows1252) addressPage) := by
  have hunmarked : Unmarked addressPage := byteOrderMark?_eq_none_iff.mp (by decide +kernel)
  have hforeign : Foreign addressPage := foreign_of_isFaulty (by decide +kernel)
  have hdeclared : declaredCharset? addressPage = some "koi8-r" := by decide +kernel
  have hlabel : ofLabel? "koi8-r" = some (codePage CodePage.koi8r) := by decide +kernel
  have hkoi8 : pageText addressPage =
      textOf (decodeRaw asciiOnly (codePage CodePage.koi8r) addressPage) := by
    rw [pageText, pageTextBy]
    refine decodeTextBy_of_label rfl hunmarked hforeign ?_
    rw [hdeclared, Option.bind_some, hlabel]
  have hread : pageText addressPage = "<a href=/list?charset=koi8-r>\u044e</a>" := by
    rw [hkoi8]
    simp only [decodeRaw, CodePage.decode, CodePage.koi8r, String.toList_append]
    decide +kernel
  have hdefault : textOf (decodeRaw asciiOnly (codePage CodePage.windows1252) addressPage) =
      "<a href=/list?charset=koi8-r>\u00c0</a>" := by
    simp only [decodeRaw, CodePage.decode, CodePage.windows1252, String.toList_append]
    decide +kernel
  refine ⟨⟨fromFirst?_eq_none_iff.mp (by decide +kernel),
    fromFirst?_eq_none_iff.mp (by decide +kernel)⟩, hunmarked, hforeign, hdeclared, hread, ?_⟩
  rw [hread, hdefault]
  decide +kernel

end HtmlTemplate
