import HtmlTemplate.Conversion
import HtmlTemplate.Proofs.Encoding.Utf8

/-!
# Pages in UTF-8

The bytes of a text are read as a page without regard to the encoding that the page declares, since
UTF-8 is tried first and the bytes are well-formed. A byte order mark at their front is dropped, and
then the page is parsed as a text, which drops a mark as well. A page with one mark at most is
converted the same from its text and from its bytes; of several marks the bytes lose one more
(`convertBytes_bytesOf`, `convertBytes_two_marks`).

The parser and the decoder are parameters. Of the one it matters only that it drops a mark
(`DropsMark`), of the other only how it reads UTF-8.
-/

namespace HtmlTemplate

open Encoding

/-- A text without the byte order mark at its front, if there is one. -/
def unmarked (page : String) : String :=
  String.ofList (Markup.dropMark page.toList)

/-- A parser drops the byte order mark at the front of a text before it reads the text, so texts
that are the same without it are parsed the same. -/
def DropsMark (parse : Parser) : Prop :=
  ∀ page other, unmarked page = unmarked other → parse page = parse other

variable {decoder : Decoder} {page : String}

/-! ## Marks -/

namespace Markup

/-- A text that begins with another character has no mark to drop. -/
theorem dropMark_of_head_ne {source : List Char} (h : source.head? ≠ some '\ufeff') :
    dropMark source = source := by
  rw [dropMark.eq_def]
  split
  · exact absurd rfl h
  · rfl

/-- Without a second mark behind the first one there is none left to drop. -/
theorem dropMark_dropMark {source : List Char} (h : ¬ ['\ufeff', '\ufeff'] <+: source) :
    dropMark (dropMark source) = dropMark source := by
  refine dropMark_of_head_ne fun hhead => h ?_
  rw [dropMark.eq_def] at hhead
  split at hhead
  next rest =>
    obtain ⟨behind, rfl⟩ := List.head?_eq_some_iff.mp hhead
    exact ⟨behind, rfl⟩
  next hmark =>
    obtain ⟨behind, rfl⟩ := List.head?_eq_some_iff.mp hhead
    exact absurd rfl (hmark behind)

end Markup

/-- There is no second mark to drop unless the text begins with two. -/
theorem unmarked_unmarked (h : ¬ ['\ufeff', '\ufeff'] <+: page.toList) :
    unmarked (unmarked page) = unmarked page := by
  rw [unmarked, unmarked, String.toList_ofList, Markup.dropMark_dropMark h]

/-- A parser that drops marks makes no difference between a text and the text without its mark,
unless another mark follows. -/
theorem DropsMark.parse_unmarked {parse : Parser} (hparse : DropsMark parse)
    (h : ¬ ['\ufeff', '\ufeff'] <+: page.toList) : parse (unmarked page) = parse page :=
  hparse (unmarked page) page (unmarked_unmarked h)

/-- Markup is read from the text that is left without the mark. -/
theorem dropsMark_ofText : DropsMark Page.ofText := by
  intro page other h
  have hsource : Markup.sourceOf page = Markup.sourceOf other := by
    rw [Markup.sourceOf, Markup.sourceOf, String.ofList_injective h]
  have hconstruct : Markup.construct page = Markup.construct other := by
    rw [Markup.construct, Markup.construct, hsource]
  rw [Page.ofText, Page.ofText, hconstruct]

/-! ## Reading bytes -/

section

variable (hutf8 : decoder utf8 = Utf8.decode)

include hutf8

/-- The bytes of a text are read as that text, except for a mark at its front. -/
theorem decodeBy_bytesOf (page : String) :
    utf8.decodeBy decoder (bytesOf page) = (Markup.dropMark page.toList).map some := by
  rw [bytesOf_eq, decodeBy]
  by_cases hmark : page.toList.head? = some '\ufeff'
  · obtain ⟨rest, hrest⟩ := List.head?_eq_some_iff.mp hmark
    rw [hrest, byteOrderMark?_encode_mark]
    simp only [hutf8]
    exact Utf8.decode_encode rest
  · rw [byteOrderMark?_encode hmark, Markup.dropMark_of_head_ne hmark]
    simp only [hutf8]
    exact Utf8.decode_encode page.toList

/-- Whatever encoding is declared, the bytes of a text are read as UTF-8. -/
theorem decodeTextBy_bytesOf (page : String) (hint : Option String) :
    decodeTextBy decoder (bytesOf page) hint = (unmarked page, []) := by
  have hfaulty : isFaulty (utf8.decodeBy decoder (bytesOf page)) = false := by
    simp [isFaulty, decodeBy_bytesOf hutf8]
  rw [decodeTextBy, if_neg (by simp [hfaulty]), decodeBy_bytesOf hutf8, unmarked, textOf]
  simp [Function.comp_def]

/-- The bytes of a text are parsed as that text without a mark at its front. -/
theorem Page.ofBytesBy_bytesOf (parse : Parser) (page : String) :
    Page.ofBytesBy decoder parse (bytesOf page) = parse (unmarked page) := by
  rw [Page.ofBytesBy, decodeTextBy_bytesOf hutf8]
  rfl

/-- The bytes of a text are converted as that text is without a mark at its front. -/
theorem convertBytesBy_bytesOf (parse : Parser) (page root : String) :
    convertBytesBy decoder parse (bytesOf page) root =
      convertTextBy parse (unmarked page) root := by
  rw [convertBytesBy, convertTextBy, Page.ofBytesBy_bytesOf hutf8]

end

/-! ## Converting bytes -/

/-- A text is converted as it is without a mark at its front, unless it begins with two. -/
theorem convertTextBy_unmarked {parse : Parser} (hparse : DropsMark parse) (root : String)
    (h : ¬ ['\ufeff', '\ufeff'] <+: page.toList) :
    convertTextBy parse (unmarked page) root = convertTextBy parse page root := by
  rw [convertTextBy, convertTextBy, hparse.parse_unmarked h]

/-- The bytes of a text are converted as that text is without a mark at its front, and as the text
itself unless it begins with two marks. This holds for every parser that drops a mark and every
decoder that reads UTF-8, and so for `convertBytes` and `convertText`, however the encodings of East
Asia are read. -/
theorem convertBytes_bytesOf (decoder : Decoder) (hutf8 : decoder utf8 = Utf8.decode)
    (parse : Parser) (hparse : DropsMark parse) (page root : String) :
    convertBytesBy decoder parse (bytesOf page) root = convertTextBy parse (unmarked page) root ∧
      (¬ ['\ufeff', '\ufeff'] <+: page.toList →
        convertBytesBy decoder parse (bytesOf page) root = convertTextBy parse page root) ∧
      ∀ eastern, convertBytes (bytesOf page) root eastern = convertText (unmarked page) root ∧
        (¬ ['\ufeff', '\ufeff'] <+: page.toList →
          convertBytes (bytesOf page) root eastern = convertText page root) := by
  refine ⟨convertBytesBy_bytesOf hutf8 parse page root, fun hmarks => ?_, fun eastern => ?_⟩
  · rw [convertBytesBy_bytesOf hutf8, convertTextBy_unmarked hparse root hmarks]
  · have hbytes : convertBytes (bytesOf page) root eastern = convertText (unmarked page) root :=
      convertBytesBy_bytesOf rfl Page.ofText page root
    refine ⟨hbytes, fun hmarks => ?_⟩
    rw [hbytes, convertText, convertText, convertTextBy_unmarked dropsMark_ofText root hmarks]

/-- A page with a mark that declares another encoding is converted the same from its bytes. -/
theorem convertBytes_bytesOf_declared :
    let page := "\ufeff<meta charset=koi8-r><p>caf\u00e9"
    decodeRaw asciiOnly utf8 = Utf8.decode ∧ DropsMark Page.ofText ∧
      convertBytes (bytesOf page) "p" = convertText page "p" ∧
      (convertText page "p").toOption.map (·.content) = some "p [] [\ntxt \"caf\u00e9\";]" := by
  intro page
  have hutf8 : decodeRaw asciiOnly utf8 = Utf8.decode := rfl
  obtain ⟨-, hagree, -⟩ :=
    convertBytes_bytesOf (decodeRaw asciiOnly) hutf8 Page.ofText dropsMark_ofText page "p"
  exact ⟨hutf8, dropsMark_ofText, hagree (by decide), by decide +kernel⟩

/-- With two marks at the front, the second one is left in the text and not in its bytes. -/
theorem convertBytes_two_marks :
    let page := "\ufeff\ufeffx"
    (convertBytes (bytesOf page) "body").toOption.map (·.content) = some "body [] [\ntxt \"x\";]" ∧
      (convertText page "body").toOption.map (·.content) =
        some "body [] [\ntxt \"\ufeffx\";]" ∧
      convertBytes (bytesOf page) "body" ≠ convertText page "body" := by
  intro page
  have hbytes : (convertBytes (bytesOf page) "body").toOption.map (·.content) =
      some "body [] [\ntxt \"x\";]" := by decide +kernel
  have htext : (convertText page "body").toOption.map (·.content) =
      some "body [] [\ntxt \"\ufeffx\";]" := by decide +kernel
  refine ⟨hbytes, htext, fun heq => ?_⟩
  rw [heq, htext] at hbytes
  exact absurd hbytes (by decide)

end HtmlTemplate
