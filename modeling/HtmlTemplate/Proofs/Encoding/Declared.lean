import HtmlTemplate.Proofs.Encoding.Validity
import Mathlib.Data.List.TakeWhile
import Mathlib.Data.Option.Basic

/-!
# What a page declares

`Declares` says, without a search, which label the head of a page declares: the token behind the
first `encoding=` from the first `<?xml` on or, if there is no such token, the one behind the first
`charset=`. An occurrence is the first one if no other begins before it (`FirstAt`). A token in
quotes ends at the next quotation mark of its kind, and any other token is as long as it can be
(`TokenAt`). `declaredCharset?_eq_some_iff` shows that `declaredCharset?` finds this label and no
other.
-/

namespace HtmlTemplate.Encoding

/-- Byte by byte, `word` is `key` up to `same`. -/
def Spells (same : UInt8 → UInt8 → Bool) (key word : List UInt8) : Prop :=
  List.Forall₂ (fun k b => same k b = true) key word

/-- Somewhere in `bytes` stands `key` up to `same`. -/
def Occurs (same : UInt8 → UInt8 → Bool) (key bytes : List UInt8) : Prop :=
  ∃ before word rest, bytes = before ++ (word ++ rest) ∧ Spells same key word

/-- The first occurrence of `key` up to `same` is `word`, with `before` in front of it and `rest`
behind. -/
structure FirstAt (same : UInt8 → UInt8 → Bool) (key bytes before word rest : List UInt8) :
    Prop where
  bytes_eq : bytes = before ++ (word ++ rest)
  spells : Spells same key word
  first : ∀ earlier other later, bytes = earlier ++ (other ++ later) → Spells same key other →
    before.length ≤ earlier.length

/-- `TokenAt rest token` says that `rest` starts with `token`, in quotes or not. -/
inductive TokenAt : List UInt8 → List UInt8 → Prop where
  /-- What stands between a quotation mark and the next one of its kind. -/
  | quoted {quote : UInt8} {token behind : List UInt8} (hquote : isQuoteByte quote = true)
      (hfree : quote ∉ token) : TokenAt (quote :: (token ++ quote :: behind)) token
  /-- Without a quotation mark in front, the longest part that no byte in it ends. -/
  | bare {byte : UInt8} {bytes token : List UInt8} (hbyte : isQuoteByte byte = false)
      (hlead : token <+: byte :: bytes) (hfree : ∀ b ∈ token, endsToken b = false)
      (hlongest : ∀ other, other <+: byte :: bytes → (∀ b ∈ other, endsToken b = false) →
        other.length ≤ token.length) :
      TokenAt (byte :: bytes) token

/-- The bytes behind the first `key`, whatever the case of its letters, start with a token that is
the text `label`. The empty token is none. -/
structure TokenAfter (key : String) (bytes : List UInt8) (label : String) : Prop where
  nonempty : label ≠ ""
  exists_token : ∃ before word rest, FirstAt sameByte (bytesOf key) bytes before word rest ∧
    TokenAt rest (bytesOf label)

/-- The bytes from the first `<?xml` on have `label` behind their first `encoding=`. -/
def XmlDeclares (head : List UInt8) (label : String) : Prop :=
  ∃ before word rest, FirstAt (· == ·) (bytesOf "<?xml") head before word rest ∧
    TokenAfter "encoding=" (word ++ rest) label

/-- The head of a page declares `label`. -/
inductive Declares (head : List UInt8) (label : String) : Prop where
  | xml (hxml : XmlDeclares head label)
  /-- Only a page without an encoding in an XML declaration is searched for `charset=`. -/
  | charset (hxml : ∀ other, ¬ XmlDeclares head other) (hcharset : TokenAfter "charset=" head label)

variable {same : UInt8 → UInt8 → Bool} {key bytes before word rest token found : List UInt8}
  {byte : UInt8} {label : String}

/-! ## Occurrences -/

/-- A word is as long as the key that it spells. -/
theorem Spells.length_eq (h : Spells same key word) : key.length = word.length :=
  List.Forall₂.length_eq h

/-- The bytes start with a key exactly when a word in front spells it. -/
theorem startsWith_iff :
    startsWith same key bytes = true ↔
      ∃ word rest, bytes = word ++ rest ∧ Spells same key word := by
  induction key generalizing bytes with
  | nil => exact ⟨fun _ => ⟨[], bytes, rfl, .nil⟩, fun _ => rfl⟩
  | cons k key ih =>
      cases bytes with
      | nil =>
          refine ⟨nofun, fun ⟨word, rest, hbytes, hspells⟩ => ?_⟩
          cases hspells with
          | cons _ _ => cases hbytes
      | cons byte bytes =>
          rw [startsWith, Bool.and_eq_true, ih]
          constructor
          · rintro ⟨hsame, word, rest, rfl, hspells⟩
            exact ⟨byte :: word, rest, rfl, .cons hsame hspells⟩
          · rintro ⟨_, rest, hbytes, hspells⟩
            cases hspells with
            | cons hsame hspells =>
                obtain ⟨rfl, rfl⟩ := List.cons.inj hbytes
                exact ⟨hsame, _, rest, rfl, hspells⟩

namespace FirstAt

/-- What starts with the key has its first occurrence there. -/
theorem start (h : Spells same key word) : FirstAt same key (word ++ rest) [] word rest where
  bytes_eq := rfl
  spells := h
  first _ _ _ _ _ := Nat.zero_le _

/-- In front of bytes, one more at which the key does not stand changes nothing. -/
theorem cons (h : FirstAt same key bytes before word rest)
    (hstart : startsWith same key (byte :: bytes) = false) :
    FirstAt same key (byte :: bytes) (byte :: before) word rest where
  bytes_eq := congrArg (byte :: ·) h.bytes_eq
  spells := h.spells
  first earlier other later hbytes hother := by
    cases earlier with
    | nil => exact absurd (startsWith_iff.mpr ⟨other, later, hbytes, hother⟩) (by simp [hstart])
    | cons _ earlier =>
        exact Nat.succ_le_succ (h.first earlier other later (List.cons.inj hbytes).2 hother)

/-- There is one first place of a key. -/
theorem unique {before' word' rest' : List UInt8} (h : FirstAt same key bytes before word rest)
    (h' : FirstAt same key bytes before' word' rest') :
    before = before' ∧ word = word' ∧ rest = rest' := by
  have hbefore : before.length = before'.length :=
    Nat.le_antisymm (h.first _ _ _ h'.bytes_eq h'.spells) (h'.first _ _ _ h.bytes_eq h.spells)
  have hword : word.length = word'.length := h.spells.length_eq.symm.trans h'.spells.length_eq
  obtain ⟨hfront, hbehind⟩ := List.append_inj (h.bytes_eq.symm.trans h'.bytes_eq) hbefore
  exact ⟨hfront, List.append_inj hbehind hword⟩

end FirstAt

/-- What is found is the first occurrence, with what stands behind it. -/
theorem firstAt_of_fromFirst? (h : fromFirst? same key bytes = some found) :
    ∃ before word rest, FirstAt same key bytes before word rest ∧ found = word ++ rest := by
  induction bytes with
  | nil =>
      cases key with
      | nil =>
          cases h
          exact ⟨[], [], [], .start .nil, rfl⟩
      | cons k key => cases h
  | cons byte bytes ih =>
      rw [fromFirst?] at h
      split at h
      next hstart =>
        cases h
        obtain ⟨word, rest, hbytes, hspells⟩ := startsWith_iff.mp hstart
        exact ⟨[], word, rest, hbytes ▸ .start hspells, hbytes⟩
      next hstart =>
        obtain ⟨before, word, rest, hfirst, hfound⟩ := ih h
        exact ⟨byte :: before, word, rest, hfirst.cons (by simpa using hstart), hfound⟩

/-- Nothing is found only where the key does not occur. -/
theorem fromFirst?_eq_none_iff : fromFirst? same key bytes = none ↔ ¬ Occurs same key bytes := by
  constructor
  · rintro h ⟨before, word, rest, rfl, hspells⟩
    -- The search reaches the occurrence unless it stops in front of it.
    induction before with
    | nil =>
        have hstart : startsWith same key (word ++ rest) = true :=
          startsWith_iff.mpr ⟨word, rest, rfl, hspells⟩
        rw [List.nil_append] at h
        cases hbytes : word ++ rest with
        | nil =>
            obtain ⟨rfl, -⟩ := List.append_eq_nil_iff.mp hbytes
            cases hspells
            rw [hbytes] at h
            cases h
        | cons byte bytes =>
            rw [hbytes] at h hstart
            rw [fromFirst?, if_pos hstart] at h
            cases h
    | cons byte before ih =>
        rw [List.cons_append, fromFirst?] at h
        split at h
        · cases h
        · exact ih h
  · intro h
    rw [Option.eq_none_iff_forall_ne_some]
    intro found hfound
    obtain ⟨before, word, rest, hfirst, -⟩ := firstAt_of_fromFirst? hfound
    exact h ⟨before, word, rest, hfirst.bytes_eq, hfirst.spells⟩

/-- What is found is the first place of the key with all that is behind it. -/
theorem fromFirst?_eq_some_iff :
    fromFirst? same key bytes = some found ↔
      ∃ before word rest, FirstAt same key bytes before word rest ∧ found = word ++ rest := by
  refine ⟨firstAt_of_fromFirst?, ?_⟩
  rintro ⟨before, word, rest, hfirst, rfl⟩
  cases hsearch : fromFirst? same key bytes with
  | none =>
      exact absurd ⟨before, word, rest, hfirst.bytes_eq, hfirst.spells⟩
        (fromFirst?_eq_none_iff.mp hsearch)
  | some found =>
      obtain ⟨before', word', rest', hfirst', rfl⟩ := firstAt_of_fromFirst? hsearch
      obtain ⟨-, rfl, rfl⟩ := hfirst.unique hfirst'
      rfl

/-- What is found is all that is behind the first place of the key. -/
theorem afterFirst?_eq_some_iff :
    afterFirst? key bytes = some rest ↔
      ∃ before word, FirstAt sameByte key bytes before word rest := by
  simp only [afterFirst?, Option.map_eq_some_iff, fromFirst?_eq_some_iff]
  constructor
  · rintro ⟨_, ⟨before, word, behind, hfirst, rfl⟩, hrest⟩
    rw [hfirst.spells.length_eq, List.drop_left] at hrest
    exact ⟨before, word, hrest ▸ hfirst⟩
  · rintro ⟨before, word, hfirst⟩
    exact ⟨_, ⟨before, word, rest, hfirst, rfl⟩, by rw [hfirst.spells.length_eq, List.drop_left]⟩

/-! ## Tokens -/

/-- The longest part at the front that no byte in it ends, as `takeWhile` finds it. -/
theorem eq_takeWhile_iff :
    token = bytes.takeWhile (! endsToken ·) ↔
      token <+: bytes ∧ (∀ b ∈ token, endsToken b = false) ∧
        ∀ other, other <+: bytes → (∀ b ∈ other, endsToken b = false) →
          other.length ≤ token.length := by
  have hfree : ∀ b ∈ bytes.takeWhile (! endsToken ·), endsToken b = false :=
    fun b hb => by simpa using List.mem_takeWhile_imp hb
  have hlongest : ∀ other, other <+: bytes → (∀ b ∈ other, endsToken b = false) →
      other.length ≤ (bytes.takeWhile (! endsToken ·)).length := by
    rintro other ⟨behind, rfl⟩ hother
    rw [List.takeWhile_append_of_pos (by simpa using hother), List.length_append]
    exact Nat.le_add_right _ _
  constructor
  · rintro rfl
    exact ⟨List.takeWhile_prefix _, hfree, hlongest⟩
  · rintro ⟨hlead, htoken, hmax⟩
    have hlength : token.length = (bytes.takeWhile (! endsToken ·)).length :=
      Nat.le_antisymm (hlongest token hlead htoken)
        (hmax _ (List.takeWhile_prefix _) hfree)
    exact List.IsPrefix.eq_of_length
      (List.prefix_of_prefix_length_le hlead (List.takeWhile_prefix _)
        (Nat.le_of_eq hlength)) hlength

/-- What stands in front of the first `byte`, as `takeWhile` finds it. -/
theorem takeWhile_ne_append (h : byte ∉ token) :
    (token ++ byte :: rest).takeWhile (· != byte) = token := by
  rw [List.takeWhile_append_of_pos, List.takeWhile_cons]
  · simp
  · intro b hb
    simpa using ne_of_mem_of_not_mem hb h

/-- Without a quotation mark in front, a token is what `takeWhile` finds. -/
theorem tokenAt_iff_of_bare (hbyte : isQuoteByte byte = false) :
    TokenAt (byte :: bytes) token ↔ token = (byte :: bytes).takeWhile (! endsToken ·) := by
  rw [eq_takeWhile_iff]
  constructor
  · intro h
    cases h with
    | quoted hquote _ => exact absurd hquote (by simp [hbyte])
    | bare _ hlead hfree hlongest => exact ⟨hlead, hfree, hlongest⟩
  · rintro ⟨hlead, hfree, hlongest⟩
    exact .bare hbyte hlead hfree hlongest

/-- The token that is read is the one at the start of the bytes. -/
theorem tokenBytes?_eq_some_iff : tokenBytes? rest = some token ↔ TokenAt rest token := by
  constructor
  · intro h
    cases rest with
    | nil => cases h
    | cons byte bytes =>
        rw [tokenBytes?] at h
        split_ifs at h with hquote hclosed
        · cases h
          obtain ⟨inside, behind, rfl, hfree⟩ :=
            List.eq_append_cons_of_mem (List.contains_iff_mem.mp hclosed)
          rw [takeWhile_ne_append hfree]
          exact .quoted hquote hfree
        · exact (tokenAt_iff_of_bare (by simpa using hquote)).mpr (Option.some.inj h).symm
  · intro h
    cases h with
    | quoted hquote hfree =>
        rw [tokenBytes?, if_pos hquote, if_pos (by simp), takeWhile_ne_append hfree]
    | bare hbyte hlead hfree hlongest =>
        rw [tokenBytes?, if_neg (by simp [hbyte]), eq_takeWhile_iff.mpr ⟨hlead, hfree, hlongest⟩]

/-- Characters none of which is faulty are those of a text. -/
theorem mapM_id_eq_some_iff {decoded : List (Option Char)} {text : List Char} :
    decoded.mapM id = some text ↔ decoded = text.map some := by
  induction decoded generalizing text with
  | nil => cases text <;> simp
  | cons c decoded ih =>
      cases c <;> cases text <;> simp [List.mapM_cons, Option.bind_eq_some_iff, ih, and_comm]

/-- Bytes are read as a text exactly when they are its bytes. -/
theorem text?_eq_some_iff : Utf8.text? bytes = some label ↔ bytes = bytesOf label := by
  simp only [Utf8.text?, Option.map_eq_some_iff, mapM_id_eq_some_iff]
  constructor
  · rintro ⟨text, htext, rfl⟩
    have hfaulty : isFaulty (Utf8.decode bytes) = false := by simp [htext, isFaulty]
    obtain ⟨page, rfl⟩ := isFaulty_decode_iff.mp hfaulty
    have hpage := textOf_decode_bytesOf page
    rw [htext] at hpage
    rw [← hpage, textOf]
    simp [Function.comp_def]
  · rintro rfl
    exact ⟨label.toList, by rw [bytesOf_eq, Utf8.decode_encode], String.ofList_toList⟩

/-- Different texts have different bytes. -/
theorem bytesOf_injective : Function.Injective bytesOf :=
  Function.LeftInverse.injective (g := textOf ∘ Utf8.decode) textOf_decode_bytesOf

/-- Only the empty text has no bytes. -/
theorem bytesOf_eq_nil_iff : bytesOf label = [] ↔ label = "" :=
  ⟨fun h => bytesOf_injective h, fun h => h ▸ rfl⟩

/-- The value that is found is the token behind the first place of the key. -/
theorem valueAfter?_eq_some_iff {key : String} :
    valueAfter? key bytes = some label ↔ TokenAfter key bytes label := by
  simp only [valueAfter?, Option.bind_eq_bind, Option.bind_eq_some_iff, afterFirst?_eq_some_iff,
    tokenBytes?_eq_some_iff, text?_eq_some_iff]
  constructor
  · rintro ⟨rest, ⟨before, word, hfirst⟩, _, htoken, _, hguard, rfl⟩
    have hne : bytesOf label ≠ [] := by simpa using (Option.guard_eq_some' ()).mp hguard
    exact ⟨mt bytesOf_eq_nil_iff.mpr hne, before, word, rest, hfirst, htoken⟩
  · rintro ⟨hne, before, word, rest, hfirst, htoken⟩
    have hguard : guard ((! (bytesOf label).isEmpty) = true) = some () :=
      (Option.guard_eq_some' ()).mpr (by simpa using mt bytesOf_eq_nil_iff.mp hne)
    exact ⟨rest, ⟨before, word, hfirst⟩, bytesOf label, htoken, (), hguard, rfl⟩

/-! ## Declarations -/

/-- The label that is found is the one that an XML declaration gives. -/
theorem xmlEncoding?_eq_some_iff : xmlEncoding? bytes = some label ↔ XmlDeclares bytes label := by
  simp only [xmlEncoding?, Option.bind_eq_bind, Option.bind_eq_some_iff, fromFirst?_eq_some_iff,
    valueAfter?_eq_some_iff]
  constructor
  · rintro ⟨_, ⟨before, word, rest, hfirst, rfl⟩, htoken⟩
    exact ⟨before, word, rest, hfirst, htoken⟩
  · rintro ⟨before, word, rest, hfirst, htoken⟩
    exact ⟨_, ⟨before, word, rest, hfirst, rfl⟩, htoken⟩

/-- No label is found exactly when no XML declaration gives one. -/
theorem xmlEncoding?_eq_none_iff :
    xmlEncoding? bytes = none ↔ ∀ label, ¬ XmlDeclares bytes label := by
  simp only [Option.eq_none_iff_forall_ne_some, ne_eq, xmlEncoding?_eq_some_iff]

/-- The label that is found is the one that the head of the page declares. -/
theorem declaredCharset?_eq_some_iff :
    declaredCharset? bytes = some label ↔ Declares (bytes.take declarationLimit) label := by
  rw [declaredCharset?, Option.or_eq_some_iff, xmlEncoding?_eq_some_iff, xmlEncoding?_eq_none_iff,
    valueAfter?_eq_some_iff]
  constructor
  · rintro (hxml | ⟨hxml, hcharset⟩)
    · exact .xml hxml
    · exact .charset hxml hcharset
  · rintro (hxml | ⟨hxml, hcharset⟩)
    · exact Or.inl hxml
    · exact Or.inr ⟨hxml, hcharset⟩

end HtmlTemplate.Encoding
