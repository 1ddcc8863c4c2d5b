import HtmlTemplate.Proofs.Rendering.Reader

/-!
# The grammar of the template language

`Source.Grammatical` says which trees the grammar gives. It asks less than `Source.Readable`: where
strings and values hold delimiters, two grammatical trees may have one text. Even so an item is
never empty, so an element whose list begins with an empty item is the text of none
(`Grammatical.print_ne`), and the reader stops at an empty item (`readMany_item_none`).
-/

namespace HtmlTemplate

namespace Source

/-- A tree that the grammar of the template language gives: the content of an element is of the kind
that the catalog has for its name, and names are names. Strings and values may be any. -/
inductive Grammatical (catalog : Catalog) : Source → Prop where
  | void {tag attributes} (htag : IsName tag) (hkind : catalog.tagKind tag = .void)
      (hattributes : ∀ attr ∈ attributes, IsExpression attr.1) :
      Grammatical catalog (.void tag attributes)
  | flat {tag attributes} (content : String) (htag : IsName tag)
      (hkind : catalog.tagKind tag = .text)
      (hattributes : ∀ attr ∈ attributes, IsExpression attr.1) :
      Grammatical catalog (.flat tag attributes content)
  | list {tag attributes items} (htag : IsName tag) (hkind : catalog.tagKind tag = .normal)
      (hattributes : ∀ attr ∈ attributes, IsExpression attr.1)
      (hitems : ∀ item ∈ items, Grammatical catalog item) :
      Grammatical catalog (.list tag attributes items)
  | text (content : String) : Grammatical catalog (.text content)
  | comment (content : String) : Grammatical catalog (.comment content)

variable {catalog : Catalog} {tree : Source}

/-- The text of a tree begins with a name. -/
theorem Grammatical.starts (h : Grammatical catalog tree) :
    ∃ c rest, tree.print = c :: rest ∧ isNameChar c = true := by
  have hheader : ∀ {tag : String} (attributes : List (String × String)) (more : List Char),
      IsName tag → ∃ c rest, printHeader tag attributes ++ more = c :: rest ∧
        isNameChar c = true := by
    intro tag attributes more htag
    obtain ⟨c, cs, hcs⟩ := List.exists_cons_of_ne_nil (String.toList_eq_nil_iff.not.mpr htag.1)
    rw [printHeader, hcs]
    exact ⟨c, _, rfl, htag.isNameChar_of_mem (hcs ▸ List.mem_cons_self)⟩
  cases h with
  | @void tag attributes htag => simpa [print] using hheader attributes [] htag
  | @flat tag attributes content htag => exact hheader attributes _ htag
  | @list tag attributes items htag =>
      rw [print, List.append_assoc]
      exact hheader attributes _ htag
  | text => exact ⟨'t', _, rfl, by decide⟩
  | comment => exact ⟨'c', _, rfl, by decide⟩

/-- Behind a name, texts that are the same go on the same. -/
theorem IsName.append_inj {name other : String} {rest more : List Char} (h : IsName name)
    (hother : IsName other) (heq : name.toList ++ ' ' :: rest = other.toList ++ ' ' :: more) :
    rest = more := by
  have hread := congrArg readName heq
  rw [readName_append h, readName_append hother, Option.some.injEq, Prod.mk.injEq,
    List.cons.injEq] at hread
  exact hread.2.2

/-- A string literal does not begin with a bracket. -/
theorem toList_ofText_ne (content : String) (rest : List Char) :
    (Literal.ofText content).toList ≠ '[' :: rest := by
  rcases toList_ofText_cases content with ⟨-, htext⟩ | ⟨-, htext⟩ <;> rw [htext] <;> simp

/-- What follows a header without attributes is what follows the brackets. -/
theorem append_inj_of_printHeader {name tag : String} {attributes : List (String × String)}
    {more rest : List Char} (hname : IsName name) (htag : IsName tag)
    (hattributes : ∀ attr ∈ attributes, IsExpression attr.1)
    (heq : printHeader name attributes ++ more = tag.toList ++ " [] ".toList ++ rest) :
    more = rest := by
  have hbehind : '[' :: (attributes.flatMap printAttribute ++ ([']', ' '] ++ more)) =
      '[' :: ([']', ' '] ++ rest) := by
    refine hname.append_inj htag ?_
    simpa [printHeader] using heq
  have hbehind := (List.cons.inj hbehind).2
  cases attributes with
  | nil => exact List.append_cancel_left hbehind
  | cons attr attributes =>
      have hstarts := printAttribute_starts (hattributes attr List.mem_cons_self)
        (attributes.flatMap printAttribute ++ ([']', ' '] ++ more))
      rw [← List.append_assoc, ← List.flatMap_cons, hbehind, isPrefixOf?_append] at hstarts
      cases hstarts

/-- No grammatical tree is an element whose list begins with an empty item. -/
theorem Grammatical.print_ne (h : Grammatical catalog tree) {tag : String} (htag : IsName tag)
    (rest : List Char) : tree.print ≠ tag.toList ++ " [] ".toList ++ "[\n;".toList ++ rest := by
  intro hprint
  rw [List.append_assoc] at hprint
  have htext : ∀ {keyword : String} (content : String), IsName keyword →
      printText keyword content ≠ tag.toList ++ " [] ".toList ++ ("[\n;".toList ++ rest) := by
    intro keyword content hkeyword heq
    refine toList_ofText_ne content ([']', ' '] ++ ("[\n;".toList ++ rest))
      (hkeyword.append_inj htag ?_)
    simpa [printText] using heq
  cases h with
  | @void name attributes hname _ hattributes =>
      rw [print, ← List.append_nil (printHeader name attributes)] at hprint
      exact absurd (append_inj_of_printHeader hname htag hattributes hprint) (by simp)
  | @flat name attributes content hname _ hattributes =>
      exact toList_ofText_ne content _ (append_inj_of_printHeader hname htag hattributes hprint)
  | @list name attributes items hname _ hattributes hitems =>
      rw [print, List.append_assoc] at hprint
      have hlist := append_inj_of_printHeader hname htag hattributes hprint
      cases items with
      | nil => simp [printItems] at hlist
      | cons item items =>
          obtain ⟨c, cs, hitem, hc⟩ := (hitems item List.mem_cons_self).starts
          rw [printItems, hitem] at hlist
          obtain ⟨rfl, -⟩ : c = ';' ∧ cs ++ ';' :: (printItems items ++ [']']) = rest := by
            simpa using hlist
          exact absurd hc (by decide)
  | text content => exact htext content ⟨by decide, by decide⟩ hprint
  | comment content => exact htext content ⟨by decide, by decide⟩ hprint

/-! ## Reading items -/

variable {readOne : List Char → Option (Source × List Char)} {input rest : List Char}

/-- Where a node and a semicolon are read, the items behind them are read next. -/
theorem readMany_item {item : Source} (hread : readOne input = some (item, ';' :: rest))
    (count : Nat) :
    readMany [']'] (readItem readOne) (count + 1) ('\n' :: input) =
      (readMany [']'] (readItem readOne) count rest).map fun (items, rest) =>
        (item :: items, rest) := by
  have hitem : readItem readOne ('\n' :: input) = some (item, rest) := by
    show (readOne input).bind _ = _
    rw [hread]
    rfl
  show (readItem readOne ('\n' :: input)).bind _ = _
  rw [hitem, Option.map_eq_bind]
  rfl

/-- Where no node is read, no list of items is. -/
theorem readMany_item_none (hread : readOne input = none) (count : Nat) :
    readMany [']'] (readItem readOne) count ('\n' :: input) = none := by
  cases count with
  | zero => rfl
  | succ count =>
      show ((readOne input).bind _).bind _ = none
      rw [hread]
      rfl

/-- No node begins with a semicolon. -/
theorem readNode_semicolon (catalog : Catalog) (limit : Nat) (rest : List Char) :
    readNode catalog limit (';' :: rest) = none := by
  cases limit with
  | zero => rfl
  | succ limit =>
      have hname : readName (';' :: rest) = none := by
        rw [readName, List.takeWhile_cons_of_neg (by decide)]
      rw [readNode, hname]
      rfl

/-- Where the items of an element are not read, the element is not. -/
theorem readNode_list_none {catalog : Catalog} {tag : String} {attributes : List (String × String)}
    {limit : Nat} (htag : IsName tag) (hkind : catalog.tagKind tag = .normal)
    (hattributes : ∀ attr ∈ attributes, IsExpression attr.1 ∧ IsValue attr.2)
    (hitems : ∀ count, readMany [']'] (readItem (readNode catalog limit)) count input = none) :
    readNode catalog (limit + 1) (printHeader tag attributes ++ '[' :: input) = none := by
  rw [readNode_printHeader htag hattributes, readContent, hkind]
  show (readList [']'] (readItem (readNode catalog limit)) input).bind _ = none
  rw [readList, hitems]
  rfl

end Source

end HtmlTemplate
