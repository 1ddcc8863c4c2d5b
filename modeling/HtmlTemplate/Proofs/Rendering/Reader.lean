import HtmlTemplate.Ascii
import HtmlTemplate.Proofs.Encoding.Utf8
import HtmlTemplate.Proofs.Rendering.Source
import Mathlib.Tactic.SplitIfs
import Mathlib.Data.List.Infix

/-!
# A reader of the template language

`Source.read` takes a tree off the front of a text. It reads by the characters in front of it: a
name runs as far as its characters go, a string ends at the first closing delimiter, and any other
value ends at the first `; `. The catalog says what an element of a name contains.

On the text of a `Readable` tree the reader gives that tree and leaves what stands behind it
(`read_print`), so no two readable trees have one text.
-/

namespace HtmlTemplate.Literal

/-- The byte of the double quote stands for the double quote only. -/
theorem quoteByte_mem_iff (c : Char) : quoteByte ∈ String.utf8EncodeChar c ↔ c = '"' := by
  have hval : c = '"' ↔ c.val.toNat = 0x22 := by
    rw [Char.ext_iff, ← UInt32.toNat_inj]
    rfl
  have hquote : quoteByte.toNat = 0x22 := rfl
  rw [hval, String.utf8EncodeChar]
  generalize c.val.toNat = v
  show quoteByte ∈
    (if v ≤ 0x7f then _ else if v ≤ 0x7ff then _ else if v ≤ 0xffff then _ else _) ↔ _
  split_ifs <;>
    simp only [List.mem_cons, List.not_mem_nil, or_false, ← UInt8.toNat_inj, UInt8.toNat_ofNat',
      hquote] <;> omega

/-- A text is put between braces when it holds a double quote. -/
theorem hasQuote_iff {text : String} : hasQuote text = true ↔ '"' ∈ text.toList := by
  have hbytes : text.toByteArray.data.toList = text.toList.flatMap String.utf8EncodeChar :=
    Encoding.bytesOf_eq text
  rw [hasQuote, List.contains_iff_mem, hbytes, List.mem_flatMap]
  simp [quoteByte_mem_iff]

end HtmlTemplate.Literal

namespace HtmlTemplate.Source

/-- The characters of names. -/
def isNameChar (c : Char) : Bool :=
  c.isAlphanum || c == '-' || c == '_' || c == ':' || c == '.'

/-- Reads a name. -/
def readName (input : List Char) : Option (String × List Char) :=
  match input.takeWhile isNameChar with
  | [] => none
  | name => some (String.ofList name, input.dropWhile isNameChar)

/-- What stands before and behind the first place where the input has `stop`. -/
def cut (stop : List Char) : List Char → Option (List Char × List Char)
  | [] => none
  | c :: input =>
    match stop.isPrefixOf? (c :: input) with
    | some rest => some ([], rest)
    | none => (cut stop input).map fun (front, rest) => (c :: front, rest)

/-- Reads a string literal, and gives its text. -/
def readText : List Char → Option (String × List Char)
  | '"' :: input => (cut ['"'] input).map fun (front, rest) => (String.ofList front, rest)
  | '{' :: '|' :: input =>
    (cut ['|', '}'] input).map fun (front, rest) => (String.ofList front, rest)
  | _ => none

/-- Reads the value of an attribute, and gives it as it is written. A value that is no string
literal ends at `; `, which is left in the input. -/
def readValue (input : List Char) : Option (String × List Char) :=
  match readText input with
  | some (_, rest) => some (String.ofList (input.take (input.length - rest.length)), rest)
  | none =>
    (cut [';', ' '] input).map fun (front, rest) => (String.ofList front, ';' :: ' ' :: rest)

/-- Reads an attribute. A value that is followed by another value belongs to the expression for the
name. -/
def readAttribute (input : List Char) : Option ((String × String) × List Char) := do
  let (name, rest) ← readName input
  let rest ← [' '].isPrefixOf? rest
  let (value, rest) ← readValue rest
  match rest with
  | ' ' :: rest =>
    let (last, rest) ← readValue rest
    let rest ← [';', ' '].isPrefixOf? rest
    some ((name ++ " " ++ value, last), rest)
  | rest =>
    let rest ← [';', ' '].isPrefixOf? rest
    some ((name, value), rest)

/-- Reads with `readOne` until `stop` stands in front, at most `limit` times. -/
def readMany {α : Type} (stop : List Char) (readOne : List Char → Option (α × List Char)) :
    Nat → List Char → Option (List α × List Char)
  | 0, _ => none
  | limit + 1, input =>
    match stop.isPrefixOf? input with
    | some rest => some ([], rest)
    | none => do
      let (item, rest) ← readOne input
      let (items, rest) ← readMany stop readOne limit rest
      some (item :: items, rest)

/-- Reads with `readOne` until `stop` stands in front. -/
def readList {α : Type} (stop : List Char) (readOne : List Char → Option (α × List Char))
    (input : List Char) : Option (List α × List Char) :=
  readMany stop readOne (input.length + 1) input

/-- Reads an item of a list of nodes. -/
def readItem (readOne : List Char → Option (Source × List Char)) (input : List Char) :
    Option (Source × List Char) := do
  let rest ← ['\n'].isPrefixOf? input
  let (item, rest) ← readOne rest
  let rest ← [';'].isPrefixOf? rest
  some (item, rest)

/-- Reads the content of an element. -/
def readContent (catalog : Catalog) (readOne : List Char → Option (Source × List Char))
    (tag : String) (attributes : List (String × String)) (input : List Char) :
    Option (Source × List Char) :=
  match catalog.tagKind tag with
  | .void => some (.void tag attributes, input)
  | .text => do
    let (content, rest) ← readText input
    some (.flat tag attributes content, rest)
  | .normal => do
    let rest ← ['['].isPrefixOf? input
    let (items, rest) ← readList [']'] (readItem readOne) rest
    some (.list tag attributes items, rest)

/-- Reads a tree of at most `limit` levels. -/
def readNode (catalog : Catalog) : Nat → List Char → Option (Source × List Char)
  | 0, _ => none
  | limit + 1, input => do
    let (name, rest) ← readName input
    let rest ← [' '].isPrefixOf? rest
    match ['['].isPrefixOf? rest with
    | some rest =>
      let (attributes, rest) ← readList [']', ' '] readAttribute rest
      readContent catalog (readNode catalog limit) name attributes rest
    | none =>
      let (content, rest) ← readText rest
      if name = "txt" then some (.text content, rest)
      else if name = "comment" then some (.comment content, rest)
      else none

/-- Reads a tree off the front of a text, and gives what stands behind it. -/
def read (catalog : Catalog) (input : String) : Option (Source × String) :=
  (readNode catalog (input.length + 1) input.toList).map fun (tree, rest) =>
    (tree, String.ofList rest)

/-! ## What can be read -/

/-- A name is one or more characters of names. -/
def IsName (name : String) : Prop :=
  name ≠ "" ∧ name.toList.all isNameChar = true

/-- A text can be quoted when it does not hold both a double quote and `|}`. -/
def Quotable (text : String) : Prop :=
  ¬ ('"' ∈ text.toList ∧ ['|', '}'] <:+: text.toList)

/-- A value can be written bare when it does not start like a string literal and does not hold
`; `. -/
def Bare (value : String) : Prop :=
  ¬ ['"'] <+: value.toList ∧ ¬ ['{', '|'] <+: value.toList ∧ ¬ [';', ' '] <:+: value.toList

instance (name : String) : Decidable (IsName name) :=
  inferInstanceAs (Decidable (_ ∧ _))

instance (text : String) : Decidable (Quotable text) :=
  inferInstanceAs (Decidable (¬ _))

instance (value : String) : Decidable (Bare value) :=
  inferInstanceAs (Decidable (_ ∧ _))

/-- The expression for the name of an attribute is a name, or `string_attr` and a quoted name. -/
def IsExpression (expression : String) : Prop :=
  IsName expression ∨ ∃ name, IsName name ∧ expression = "string_attr \"" ++ name ++ "\""

/-- The value of an attribute is a string literal or bare. -/
def IsValue (value : String) : Prop :=
  (∃ text, Quotable text ∧ value = Literal.ofText text) ∨ Bare value

/-- A tree of the template language whose elements have the content that the catalog gives them, and
whose names, strings and values can be told from what stands behind them. -/
inductive Readable (catalog : Catalog) : Source → Prop where
  | void {tag attributes} (htag : IsName tag) (hkind : catalog.tagKind tag = .void)
      (hattributes : ∀ attr ∈ attributes, IsExpression attr.1 ∧ IsValue attr.2) :
      Readable catalog (.void tag attributes)
  | flat {tag attributes content} (htag : IsName tag) (hkind : catalog.tagKind tag = .text)
      (hattributes : ∀ attr ∈ attributes, IsExpression attr.1 ∧ IsValue attr.2)
      (hcontent : Quotable content) : Readable catalog (.flat tag attributes content)
  | list {tag attributes items} (htag : IsName tag) (hkind : catalog.tagKind tag = .normal)
      (hattributes : ∀ attr ∈ attributes, IsExpression attr.1 ∧ IsValue attr.2)
      (hitems : ∀ item ∈ items, Readable catalog item) :
      Readable catalog (.list tag attributes items)
  | text {content} (hcontent : Quotable content) : Readable catalog (.text content)
  | comment {content} (hcontent : Quotable content) : Readable catalog (.comment content)

/-! ## Reading what was printed -/

/-- Behind what was put in front comes the rest. -/
@[simp] theorem isPrefixOf?_append (stop rest : List Char) :
    stop.isPrefixOf? (stop ++ rest) = some rest :=
  Ascii.isPrefixOf?_eq_some_iff.mpr rfl

/-- A name has only characters of names. -/
theorem IsName.isNameChar_of_mem {name : String} (h : IsName name) {c : Char}
    (hc : c ∈ name.toList) : isNameChar c = true :=
  List.all_eq_true.mp h.2 c hc

/-- A name ends where a blank follows. -/
theorem readName_append {name : String} (h : IsName name) (rest : List Char) :
    readName (name.toList ++ ' ' :: rest) = some (name, ' ' :: rest) := by
  have htake : (name.toList ++ ' ' :: rest).takeWhile isNameChar = name.toList := by
    rw [List.takeWhile_append_of_pos fun _ hc => h.isNameChar_of_mem hc,
      List.takeWhile_cons_of_neg (by decide), List.append_nil]
  have hdrop : (name.toList ++ ' ' :: rest).dropWhile isNameChar = ' ' :: rest := by
    rw [List.dropWhile_append_of_pos fun _ hc => h.isNameChar_of_mem hc,
      List.dropWhile_cons_of_neg (by decide)]
  rw [readName, htake, hdrop]
  cases hname : name.toList with
  | nil => exact absurd (String.toList_eq_nil_iff.mp hname) h.1
  | cons c cs => simp [← hname]

/-- Ahead of a text that does not hold `stop`, there is no `stop` either when one follows the text.
It would begin in the text and end in the one that follows, and have its first character twice. -/
theorem isPrefixOf?_eq_none {stop front : List Char} {c : Char} (hnodup : stop.Nodup)
    (h : ¬ stop <:+: c :: front) (rest : List Char) :
    stop.isPrefixOf? (c :: (front ++ stop ++ rest)) = none := by
  refine Option.eq_none_iff_forall_ne_some.mpr fun tail htail => ?_
  have happend : (c :: front) ++ (stop ++ rest) = stop ++ tail := by
    simpa using Ascii.isPrefixOf?_eq_some_iff.mp htail
  rcases List.append_eq_append_iff.mp happend with ⟨shared, hstop, hrest⟩ | ⟨behind, hfront, -⟩
  · cases shared with
    | nil =>
        rw [List.append_nil] at hstop
        exact h (hstop ▸ List.infix_refl _)
    | cons d shared =>
        rw [hstop, List.cons_append, List.cons_append, List.cons_append, List.cons.injEq] at hrest
        rw [hstop, ← hrest.1, List.cons_append, List.nodup_cons] at hnodup
        exact hnodup.1 (List.mem_append_right _ List.mem_cons_self)
  · exact h (hfront ▸ (List.prefix_append stop behind).isInfix)

/-- A text that does not hold `stop` ends at the `stop` behind it. -/
theorem cut_append {stop front : List Char} (hnodup : stop.Nodup) (hstop : stop ≠ [])
    (h : ¬ stop <:+: front) (rest : List Char) :
    cut stop (front ++ stop ++ rest) = some (front, rest) := by
  induction front with
  | nil =>
      obtain ⟨first, others, rfl⟩ := List.exists_cons_of_ne_nil hstop
      rw [List.nil_append, List.cons_append, cut, ← List.cons_append, isPrefixOf?_append]
  | cons c front ih =>
      have hfront : ¬ stop <:+: front := fun hin =>
        h (hin.trans (List.suffix_cons c front).isInfix)
      rw [List.cons_append, List.cons_append, cut, isPrefixOf?_eq_none hnodup h, ih hfront]
      rfl

/-- A string literal is a text between double quotes that it does not hold, or a text with double
quotes between `{|` and `|}`. -/
theorem toList_ofText_cases (text : String) :
    '"' ∉ text.toList ∧ (Literal.ofText text).toList = '"' :: text.toList ++ ['"'] ∨
      '"' ∈ text.toList ∧
        (Literal.ofText text).toList = '{' :: '|' :: text.toList ++ ['|', '}'] := by
  by_cases hquote : '"' ∈ text.toList
  · have hhas := Literal.hasQuote_iff.mpr hquote
    exact Or.inr ⟨hquote, by simp [Literal.ofText, Literal.pushText, hhas]⟩
  · have hhas : Literal.hasQuote text = false :=
      Bool.eq_false_iff.mpr (Literal.hasQuote_iff.not.mpr hquote)
    exact Or.inl ⟨hquote, by simp [Literal.ofText, Literal.pushText, hhas]⟩

/-- A string literal is read back, whatever follows it. -/
theorem readText_append {text : String} (h : Quotable text) (rest : List Char) :
    readText ((Literal.ofText text).toList ++ rest) = some (text, rest) := by
  rcases toList_ofText_cases text with ⟨hquote, htext⟩ | ⟨hquote, htext⟩
  · have hcut := cut_append (List.nodup_singleton '"') (List.cons_ne_nil _ _)
      ((List.singleton_infix_iff _ _).not.mpr hquote) rest
    rw [htext, List.cons_append, List.cons_append, readText, hcut]
    simp
  · have hcut := cut_append (show ['|', '}'].Nodup by decide) (List.cons_ne_nil _ _)
      (fun hbar => h ⟨hquote, hbar⟩) rest
    rw [htext, List.cons_append, List.cons_append, List.cons_append, List.cons_append, readText,
      hcut]
    simp

/-- A string literal is read whatever follows it. -/
theorem readValue_ofText {text : String} (h : Quotable text) (rest : List Char) :
    readValue ((Literal.ofText text).toList ++ rest) = some (Literal.ofText text, rest) := by
  rw [readValue, readText_append h]
  simp

/-- What does not start like a string literal is not read as one. -/
theorem readText_eq_none {cs : List Char} (hquote : ¬ ['"'] <+: cs) (hbrace : ¬ ['{', '|'] <+: cs)
    (rest : List Char) : readText (cs ++ ';' :: ' ' :: rest) = none := by
  rw [readText.eq_def]
  split
  next input hinput =>
    cases cs with
    | nil => simp at hinput
    | cons c cs =>
        rw [List.cons_append, List.cons.injEq] at hinput
        exact absurd ⟨cs, by rw [hinput.1]; rfl⟩ hquote
  next input hinput =>
    cases cs with
    | nil => simp at hinput
    | cons c cs =>
        cases cs with
        | nil => simp at hinput
        | cons d cs =>
            rw [List.cons_append, List.cons_append, List.cons.injEq, List.cons.injEq] at hinput
            exact absurd ⟨cs, by rw [hinput.1, hinput.2.1]; rfl⟩ hbrace
  next => rfl

/-- Any other value is read up to the `; ` behind it. -/
theorem readValue_bare {value : String} (h : Bare value) (rest : List Char) :
    readValue (value.toList ++ ';' :: ' ' :: rest) = some (value, ';' :: ' ' :: rest) := by
  obtain ⟨hquote, hbrace, hstop⟩ := h
  have hcut := cut_append (show [';', ' '].Nodup by decide) (List.cons_ne_nil _ _) hstop rest
  rw [List.append_assoc, List.cons_append, List.singleton_append] at hcut
  rw [readValue, readText_eq_none hquote hbrace, hcut]
  simp

/-- A value is read back up to the `; ` behind it. -/
theorem readValue_append {value : String} (h : IsValue value) (rest : List Char) :
    readValue (value.toList ++ ';' :: ' ' :: rest) = some (value, ';' :: ' ' :: rest) := by
  rcases h with ⟨text, htext, rfl⟩ | hbare
  · exact readValue_ofText htext _
  · exact readValue_bare hbare rest

/-- A name holds no double quote. -/
theorem IsName.quote_not_mem {name : String} (h : IsName name) : '"' ∉ name.toList :=
  fun hquote => absurd (h.isNameChar_of_mem hquote) (by decide)

/-- A name can be read back from its string literal. -/
theorem IsName.quotable {name : String} (h : IsName name) : Quotable name :=
  fun hboth => h.quote_not_mem hboth.1

/-- The string literal of a name is the name in quotes, with nothing escaped. -/
theorem IsName.toList_ofText {name : String} (h : IsName name) :
    (Literal.ofText name).toList = '"' :: name.toList ++ ['"'] := by
  rcases toList_ofText_cases name with ⟨-, htext⟩ | ⟨hquote, -⟩
  · exact htext
  · exact absurd hquote h.quote_not_mem

/-- An attribute is read back, whatever follows it. -/
theorem readAttribute_append {attr : String × String} (hname : IsExpression attr.1)
    (hvalue : IsValue attr.2) (rest : List Char) :
    readAttribute (printAttribute attr ++ rest) = some (attr, rest) := by
  obtain ⟨expression, value⟩ := attr
  rcases hname with hname | ⟨name, hname, rfl⟩
  · have hprint : printAttribute (expression, value) ++ rest =
        expression.toList ++ ' ' :: (value.toList ++ ';' :: ' ' :: rest) := by
      simp [printAttribute]
    rw [readAttribute, hprint, readName_append hname]
    show (readValue (value.toList ++ ';' :: ' ' :: rest)).bind _ = _
    rw [readValue_append hvalue]
    rfl
  · have hliteral : "string_attr " ++ Literal.ofText name = "string_attr \"" ++ name ++ "\"" := by
      rw [String.ext_iff]
      simp [hname.toList_ofText]
    have hprint : printAttribute ("string_attr \"" ++ name ++ "\"", value) ++ rest =
        "string_attr".toList ++ ' ' :: ((Literal.ofText name).toList ++
          ' ' :: (value.toList ++ ';' :: ' ' :: rest)) := by
      simp [printAttribute, hname.toList_ofText]
    have hattr : IsName "string_attr" := ⟨by decide, by decide⟩
    -- The quoted name is read as a value; the blank behind it shows that it belongs to the name.
    rw [readAttribute, hprint, readName_append hattr]
    show (readValue ((Literal.ofText name).toList ++ _)).bind _ = _
    rw [readValue_ofText hname.quotable]
    show (readValue (value.toList ++ ';' :: ' ' :: rest)).bind _ = _
    rw [readValue_append hvalue, ← hliteral]
    rfl

/-- An attribute may itself be called `string_attr`: then no second value follows. -/
example :
    readAttribute "string_attr \"x\"; ] ".toList =
        some (("string_attr", "\"x\""), [']', ' ']) ∧
      readAttribute "string_attr \"x\" 4; ] ".toList =
        some (("string_attr \"x\"", "4"), [']', ' ']) := by
  decide

/-- Items that are read one by one, none of them starting like what ends the list, are read as a
list. -/
theorem readMany_append {α : Type} {stop : List Char} {printOne : α → List Char}
    {readOne : List Char → Option (α × List Char)} {items : List α}
    (hread : ∀ item ∈ items, ∀ rest, readOne (printOne item ++ rest) = some (item, rest))
    (hstop : ∀ item ∈ items, ∀ rest, stop.isPrefixOf? (printOne item ++ rest) = none)
    {limit : Nat} (hlimit : items.length < limit) (rest : List Char) :
    readMany stop readOne limit (items.flatMap printOne ++ (stop ++ rest)) =
      some (items, rest) := by
  induction items generalizing limit with
  | nil =>
      obtain ⟨limit, rfl⟩ := Nat.exists_eq_succ_of_ne_zero (Nat.ne_of_gt hlimit)
      rw [List.flatMap_nil, List.nil_append, readMany, isPrefixOf?_append]
  | cons item items ih =>
      obtain ⟨limit, rfl⟩ := Nat.exists_eq_succ_of_ne_zero (Nat.ne_zero_of_lt hlimit)
      have hrest := ih (fun item hitem => hread item (List.mem_cons_of_mem _ hitem))
        (fun item hitem => hstop item (List.mem_cons_of_mem _ hitem))
        (Nat.lt_of_succ_lt_succ hlimit)
      rw [List.flatMap_cons, List.append_assoc, readMany, hstop item List.mem_cons_self]
      simp only [hread item List.mem_cons_self, Option.bind_eq_bind, Option.bind_some, hrest]

/-- A list is read back if each entry is and none begins like the stop behind it. -/
theorem readList_append {α : Type} {stop : List Char} {printOne : α → List Char}
    {readOne : List Char → Option (α × List Char)} {items : List α}
    (hread : ∀ item ∈ items, ∀ rest, readOne (printOne item ++ rest) = some (item, rest))
    (hstop : ∀ item ∈ items, ∀ rest, stop.isPrefixOf? (printOne item ++ rest) = none)
    (hnonempty : ∀ item, 0 < (printOne item).length) (rest : List Char) :
    readList stop readOne (items.flatMap printOne ++ (stop ++ rest)) = some (items, rest) := by
  refine readMany_append hread hstop (Nat.lt_succ_of_le ?_) rest
  have hlength : ∀ items : List α, items.length ≤ (items.flatMap printOne).length := by
    intro items
    induction items with
    | nil => exact Nat.le_refl _
    | cons item items ih =>
        rw [List.length_cons, List.flatMap_cons, List.length_append, Nat.add_comm]
        exact Nat.add_le_add (hnonempty item) ih
  rw [List.length_append]
  exact Nat.le_add_right_of_le (hlength items)

/-- An attribute does not start like the end of the attributes. -/
theorem printAttribute_starts {attr : String × String} (h : IsExpression attr.1)
    (rest : List Char) : [']', ' '].isPrefixOf? (printAttribute attr ++ rest) = none := by
  obtain ⟨c, cs, hexpression, hc⟩ : ∃ c cs, attr.1.toList = c :: cs ∧ isNameChar c = true := by
    rcases h with hname | ⟨name, -, hexpression⟩
    · obtain ⟨c, cs, hcs⟩ :=
        List.exists_cons_of_ne_nil (String.toList_eq_nil_iff.not.mpr hname.1)
      exact ⟨c, cs, hcs, hname.isNameChar_of_mem (hcs ▸ List.mem_cons_self)⟩
    · rw [hexpression, String.toList_append, String.toList_append]
      exact ⟨'s', _, rfl, by decide⟩
  have hne : (']' == c) = false := by
    refine beq_eq_false_iff_ne.mpr ?_
    rintro rfl
    exact absurd hc (by decide)
  rw [printAttribute, hexpression]
  show (if ']' == c then _ else none) = none
  rw [hne]
  rfl

/-- A list of attributes is read back. -/
theorem readList_printAttribute {attributes : List (String × String)}
    (h : ∀ attr ∈ attributes, IsExpression attr.1 ∧ IsValue attr.2) (rest : List Char) :
    readList [']', ' '] readAttribute
      (attributes.flatMap printAttribute ++ ([']', ' '] ++ rest)) = some (attributes, rest) :=
  readList_append (fun attr hattr => readAttribute_append (h attr hattr).1 (h attr hattr).2)
    (fun attr hattr => printAttribute_starts (h attr hattr).1)
    (fun attr => by
      rw [printAttribute, List.length_append, List.length_append]
      exact Nat.succ_pos _) rest

/-- A list of nodes is read back if each node is. -/
theorem readList_printItem {items : List Source}
    {readOne : List Char → Option (Source × List Char)}
    (hread : ∀ item ∈ items, ∀ rest, readOne (item.print ++ rest) = some (item, rest))
    (rest : List Char) :
    readList [']'] (readItem readOne) (printItems items ++ ([']'] ++ rest)) =
      some (items, rest) := by
  rw [printItems_eq]
  refine readList_append (fun item hitem rest => ?_) (fun item _ rest => rfl)
    (fun item => by simp [printItem]) rest
  rw [printItem, readItem, List.cons_append, List.cons_append, List.append_assoc]
  show (readOne (item.print ++ ([';'] ++ rest))).bind _ = _
  rw [hread item hitem]
  rfl

/-- The text of an item is shorter than that of its list. -/
theorem length_print_lt {item : Source} {items : List Source} (h : item ∈ items) :
    item.print.length < (printItems items).length := by
  obtain ⟨before, after, rfl⟩ := List.append_of_mem h
  rw [printItems_eq, List.flatMap_append, List.flatMap_cons]
  simp [printItem]
  omega

/-- After the header of an element, its content is read. -/
theorem readNode_printHeader {catalog : Catalog} {tag : String}
    {attributes : List (String × String)} (htag : IsName tag)
    (hattributes : ∀ attr ∈ attributes, IsExpression attr.1 ∧ IsValue attr.2) (limit : Nat)
    (rest : List Char) :
    readNode catalog (limit + 1) (printHeader tag attributes ++ rest) =
      readContent catalog (readNode catalog limit) tag attributes rest := by
  have hprint : printHeader tag attributes ++ rest =
      tag.toList ++ ' ' :: '[' :: (attributes.flatMap printAttribute ++ ([']', ' '] ++ rest)) := by
    simp [printHeader]
  rw [readNode, hprint, readName_append htag]
  show (readList [']', ' '] readAttribute _).bind _ = _
  rw [readList_printAttribute hattributes]
  rfl

/-- A keyword and a string are read as such. -/
theorem readNode_printText {catalog : Catalog} {keyword content : String}
    (hkeyword : IsName keyword) (hcontent : Quotable content) (limit : Nat) (rest : List Char) :
    readNode catalog (limit + 1) (printText keyword content ++ rest) =
      if keyword = "txt" then some (.text content, rest)
      else if keyword = "comment" then some (.comment content, rest)
      else none := by
  have hprint : printText keyword content ++ rest =
      keyword.toList ++ ' ' :: ((Literal.ofText content).toList ++ rest) := by
    simp [printText]
  have hbracket : ['['].isPrefixOf? ((Literal.ofText content).toList ++ rest) = none := by
    rcases toList_ofText_cases content with ⟨-, htext⟩ | ⟨-, htext⟩
    · rw [htext]
      rfl
    · rw [htext]
      rfl
  rw [readNode, hprint, readName_append hkeyword]
  show (match ['['].isPrefixOf? ((Literal.ofText content).toList ++ rest) with
    | some _ => _
    | none => _) = _
  rw [hbracket]
  show (readText _).bind _ = _
  rw [readText_append hcontent]
  rfl

/-- The reader gives back the tree whose text it reads, and leaves what stands behind it. -/
theorem readNode_print {catalog : Catalog} {tree : Source} (h : Readable catalog tree) {limit : Nat}
    (hlimit : tree.print.length < limit) (rest : List Char) :
    readNode catalog limit (tree.print ++ rest) = some (tree, rest) := by
  -- The induction is on the limit, and not on the tree: an item is shorter than its list.
  induction limit generalizing tree rest with
  | zero => exact absurd hlimit (Nat.not_lt_zero _)
  | succ limit ih =>
      cases h with
      | void htag hkind hattributes =>
          rw [print, readNode_printHeader htag hattributes, readContent, hkind]
      | flat htag hkind hattributes hcontent =>
          rw [print, List.append_assoc, readNode_printHeader htag hattributes, readContent, hkind]
          show (readText _).bind _ = _
          rw [readText_append hcontent]
          rfl
      | @list tag attributes items htag hkind hattributes hitems =>
          have hread : ∀ item ∈ items, ∀ rest,
              readNode catalog limit (item.print ++ rest) = some (item, rest) := by
            intro item hitem rest
            refine ih (hitems item hitem) ?_ rest
            have hlt := length_print_lt hitem
            rw [print, List.length_append, List.length_append, List.length_cons] at hlimit
            omega
          have hprint : (list tag attributes items).print ++ rest =
              printHeader tag attributes ++ (['['] ++ (printItems items ++ ([']'] ++ rest))) := by
            simp [print]
          rw [hprint, readNode_printHeader htag hattributes, readContent, hkind]
          show (readList [']'] _ (printItems items ++ _)).bind _ = _
          rw [readList_printItem hread]
          rfl
      | text hcontent =>
          rw [print, readNode_printText ⟨by decide, by decide⟩ hcontent]
          rfl
      | comment hcontent =>
          rw [print, readNode_printText ⟨by decide, by decide⟩ hcontent]
          rfl

/-- Read from a text that begins with the text of a tree, the reader gives that tree. -/
theorem read_print {catalog : Catalog} {tree : Source} (h : Readable catalog tree) {front : String}
    (hfront : front.toList = tree.print) (rest : String) :
    read catalog (front ++ rest) = some (tree, rest) := by
  have hlimit : tree.print.length < (front ++ rest).length + 1 := by
    rw [← hfront, String.length_append, String.length_toList]
    omega
  rw [read, String.toList_append, hfront, readNode_print h hlimit]
  simp

/-- Two readable trees with the same text are the same tree. -/
theorem print_injective {catalog : Catalog} {tree other : Source} (h : Readable catalog tree)
    (hother : Readable catalog other) (hprint : tree.print = other.print) : tree = other := by
  have hread := read_print h (String.toList_ofList (l := tree.print)) ""
  rw [read_print hother (by rw [String.toList_ofList, hprint])] at hread
  exact (congrArg Prod.fst (Option.some.inj hread)).symm

end HtmlTemplate.Source
