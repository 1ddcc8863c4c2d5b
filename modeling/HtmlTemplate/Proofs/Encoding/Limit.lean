import HtmlTemplate.Proofs.Encoding.Declared

/-!
# Labels at the limit of the search

Only the first kilobyte of a page is searched for an encoding, and the limit may fall into a token.
A token in quotes is then not found, as its closing quotation mark is out of sight. A token without
quotes ends at the limit as it would at the end of the page, so a part of it is taken for the whole.
`declaredCharset?_closed_iff` shows that this is the only way in which a label is not a whole token
of the page, and `declaredCharset?_cut_off` is a page on which it happens.
-/

namespace HtmlTemplate.Encoding

/-- The label is read in a page behind `front`, at the end of which stands a key word, as the token
that the first kilobyte has there. -/
structure ReadAt (bytes front rest : List UInt8) (label : String) : Prop where
  bytes_eq : bytes = front ++ rest
  exists_key : ∃ key ∈ ["encoding=", "charset="], ∃ word, word <:+ front ∧
    Spells sameByte (bytesOf key) word
  inside : front.length ≤ declarationLimit
  token : TokenAt (rest.take (declarationLimit - front.length)) (bytesOf label)

/-- What is closed at the start of `rest` stands in quotes there, or has behind it a byte that ends
a token, or nothing at all. -/
inductive Closed (rest token : List UInt8) : Prop where
  | quoted {quote : UInt8} {behind : List UInt8} (hquote : isQuoteByte quote = true)
      (hrest : rest = quote :: (token ++ quote :: behind))
  | bare {behind : List UInt8} (hrest : rest = token ++ behind)
      (hbehind : ∀ byte ∈ behind.head?, endsToken byte = true)

/-- The label that is read behind `front` ends at the limit, but the token goes on. -/
def CutOff (bytes front : List UInt8) (label : String) : Prop :=
  bytes.take declarationLimit = front ++ bytesOf label ∧
    ∃ byte ∈ bytes[declarationLimit]?, endsToken byte = false

variable {bytes front rest seen unseen token : List UInt8} {label : String}

/-! ## Tokens of the part that is seen -/

/-- The token takes up all that is seen, and the first byte that is not seen belongs to it. -/
def RunsOn (seen unseen token : List UInt8) : Prop :=
  seen = token ∧ ∃ byte ∈ unseen.head?, endsToken byte = false

/-- A token does not go on into what is not seen exactly when the first byte there ends it. -/
theorem takeWhile_eq_nil_iff :
    unseen.takeWhile (! endsToken ·) = [] ↔ ¬ ∃ byte ∈ unseen.head?, endsToken byte = false := by
  cases unseen with
  | nil => simp
  | cons byte unseen => cases hends : endsToken byte <;> simp [hends]

namespace TokenAt

/-- A token is closed. -/
theorem closed (h : TokenAt rest token) : Closed rest token := by
  cases h with
  | quoted hquote hfree => exact .quoted hquote rfl
  | bare hbyte hlead hfree hlongest =>
      obtain ⟨behind, hbehind⟩ := hlead
      refine .bare hbehind.symm fun byte hbyte => ?_
      obtain ⟨behind, rfl⟩ := List.head?_eq_some_iff.mp hbyte
      by_contra hends
      have hlonger := hlongest (token ++ [byte]) ⟨behind, by simpa using hbehind⟩ (by
        intro b hb
        rcases List.mem_append.mp hb with hb | hb
        · exact hfree b hb
        · rw [List.mem_singleton.mp hb]
          simpa using hends)
      rw [List.length_append] at hlonger
      exact Nat.not_succ_le_self _ hlonger

/-- What the token is when more is seen: it only gets longer if it runs on. -/
theorem exists_of_append (h : TokenAt seen token) (unseen : List UInt8) :
    ∃ more, TokenAt (seen ++ unseen) (token ++ more) ∧
      (more = [] ↔ ¬ RunsOn seen unseen token) := by
  cases h with
  | @quoted quote _ behind hquote hfree =>
      refine ⟨[], ?_, iff_of_true rfl ?_⟩
      · rw [List.append_nil, List.cons_append, List.append_assoc, List.cons_append]
        exact .quoted hquote hfree
      · rintro ⟨heq, -⟩
        have hlength := congrArg List.length heq
        simp at hlength
        omega
  | @bare byte bytes _ hbyte hlead hfree hlongest =>
      have htoken := eq_takeWhile_iff.mpr ⟨hlead, hfree, hlongest⟩
      -- The part of the token that is not seen is what `takeWhile` finds behind what is seen.
      have hwhole : ∀ whole, TokenAt ((byte :: bytes) ++ unseen) whole ↔
          whole = if token.length = (byte :: bytes).length
            then (byte :: bytes) ++ unseen.takeWhile (! endsToken ·) else token := by
        intro whole
        rw [htoken, ← List.takeWhile_append]
        exact tokenAt_iff_of_bare hbyte
      by_cases hseen : token.length = (byte :: bytes).length
      · have hall : byte :: bytes = token := (hlead.eq_of_length hseen).symm
        refine ⟨unseen.takeWhile (! endsToken ·), ?_, ?_⟩
        · rw [hwhole, if_pos hseen, hall]
        · rw [takeWhile_eq_nil_iff, RunsOn, and_iff_right hall]
      · refine ⟨[], ?_, iff_of_true rfl ?_⟩
        · rw [hwhole, if_neg hseen, List.append_nil]
        · rintro ⟨hall, -⟩
          exact hseen (congrArg List.length hall).symm

/-- A token that is all that is seen is none in quotes. -/
theorem exists_head (h : TokenAt seen token) (hall : seen = token) :
    ∃ byte bytes, seen = byte :: bytes ∧ isQuoteByte byte = false := by
  cases h with
  | quoted hquote hfree =>
      have hlength := congrArg List.length hall
      simp at hlength
      omega
  | bare hbyte hlead hfree hlongest => exact ⟨_, _, rfl, hbyte⟩

/-- A token is closed where it ends with what is seen exactly when it does not run on. -/
theorem closed_iff (h : TokenAt seen token) (unseen : List UInt8) :
    Closed (seen ++ unseen) token ↔ ¬ RunsOn seen unseen token := by
  constructor
  · rintro hclosed ⟨hall, byte, hnext, hends⟩
    obtain ⟨first, bytes, hseen, hfirst⟩ := h.exists_head hall
    obtain ⟨rest, rfl⟩ := List.head?_eq_some_iff.mp hnext
    cases hclosed with
    | quoted hquote hrest =>
        rw [hseen, List.cons_append] at hrest
        rw [(List.cons.inj hrest).1, hquote] at hfirst
        cases hfirst
    | bare hrest hbehind =>
        rw [hall] at hrest
        rw [← List.append_cancel_left hrest] at hbehind
        simp [hends] at hbehind
  · intro hruns
    obtain ⟨more, hmore, hiff⟩ := h.exists_of_append unseen
    rw [hiff.mpr hruns, List.append_nil] at hmore
    exact hmore.closed

end TokenAt

/-! ## The place where a label is read -/

/-- The token behind a key of a part of the first kilobyte is read in the page. -/
theorem TokenAfter.exists_readAt {key : String} {skipped part : List UInt8}
    (h : TokenAfter key part label) (hkey : key ∈ ["encoding=", "charset="])
    (hpart : bytes.take declarationLimit = skipped ++ part) :
    ∃ front rest, ReadAt bytes front rest label := by
  obtain ⟨-, before, word, rest, hfirst, htoken⟩ := h
  have hhead : bytes.take declarationLimit = (skipped ++ before ++ word) ++ rest := by
    rw [hpart, hfirst.bytes_eq]
    simp
  generalize hfront : skipped ++ before ++ word = front at hhead
  have hinside : front.length ≤ declarationLimit := by
    have hlength := congrArg List.length hhead
    rw [List.length_take, List.length_append] at hlength
    omega
  have hsplit : bytes.take front.length = front := by
    rw [← Nat.min_eq_left hinside, ← List.take_take, hhead, List.take_left]
  have hrest : (bytes.drop front.length).take (declarationLimit - front.length) = rest := by
    rw [← List.drop_take, hhead, List.drop_left]
  exact ⟨front, bytes.drop front.length,
    { bytes_eq := by rw [← congrArg (· ++ _) hsplit, List.take_append_drop]
      exists_key := ⟨key, hkey, word, hfront ▸ List.suffix_append _ _, hfirst.spells⟩
      inside := hinside
      token := hrest ▸ htoken }⟩

/-- A label that is declared is read at some place. -/
theorem Declares.exists_readAt (h : Declares (bytes.take declarationLimit) label) :
    ∃ front rest, ReadAt bytes front rest label := by
  cases h with
  | xml hxml =>
      obtain ⟨before, word, rest, hfirst, htoken⟩ := hxml
      exact htoken.exists_readAt (by simp) hfirst.bytes_eq
  | charset _ hcharset => exact hcharset.exists_readAt (by simp) (List.nil_append _).symm

/-- The label is cut off when the token that is seen runs on. -/
theorem ReadAt.cutOff_iff (h : ReadAt bytes front rest label) :
    CutOff bytes front label ↔
      RunsOn (rest.take (declarationLimit - front.length))
        (rest.drop (declarationLimit - front.length)) (bytesOf label) := by
  have hhead : bytes.take declarationLimit =
      front ++ rest.take (declarationLimit - front.length) := by
    rw [h.bytes_eq, List.take_append, List.take_of_length_le h.inside]
  have hnext : (rest.drop (declarationLimit - front.length)).head? = bytes[declarationLimit]? := by
    rw [List.head?_drop, h.bytes_eq, List.getElem?_append_right h.inside]
  rw [CutOff, RunsOn, hhead, hnext, List.append_cancel_left_eq]

/-- The label that is found is a whole token of the page unless the limit of the search cuts it off,
and then the token of the page is longer. -/
theorem declaredCharset?_closed_iff (h : declaredCharset? bytes = some label) :
    ∃ front rest, ReadAt bytes front rest label ∧
      (Closed rest (bytesOf label) ↔ ¬ CutOff bytes front label) ∧
      ∃ more, TokenAt rest (bytesOf label ++ more) ∧ (more = [] ↔ ¬ CutOff bytes front label) := by
  obtain ⟨front, rest, hread⟩ := (declaredCharset?_eq_some_iff.mp h).exists_readAt
  refine ⟨front, rest, hread, ?_⟩
  rw [hread.cutOff_iff]
  have hclosed := hread.token.closed_iff (rest.drop (declarationLimit - front.length))
  have hmore := hread.token.exists_of_append (rest.drop (declarationLimit - front.length))
  rw [List.take_append_drop] at hclosed hmore
  exact ⟨hclosed, hmore⟩

/-- A page of blanks and a tag that declares an encoding. -/
def latePage (blanks : Nat) : List UInt8 :=
  List.replicate blanks 0x20 ++ bytesOf "<meta charset=iso-8859-15>"

/-- The limit stands right behind the label, and the next byte ends it. -/
theorem declaredCharset?_closed_iff_late :
    declaredCharset? (latePage 999) = some "iso-8859-15" ∧
      ∃ front rest, ReadAt (latePage 999) front rest "iso-8859-15" ∧
        Closed rest (bytesOf "iso-8859-15") := by
  have hlabel : declaredCharset? (latePage 999) = some "iso-8859-15" := by decide +kernel
  have hnext : (latePage 999)[declarationLimit]? = some 0x3E := by decide +kernel
  obtain ⟨front, rest, hread, hclosed, -⟩ := declaredCharset?_closed_iff hlabel
  refine ⟨hlabel, front, rest, hread, hclosed.mpr ?_⟩
  rintro ⟨-, byte, hbyte, hends⟩
  cases hnext.symm.trans hbyte
  exact absurd hends (by decide)

/-- One blank more, and the limit leaves the last byte of the label out. What is found stands
nowhere in the page as a whole token, and it is the label of another encoding. -/
theorem declaredCharset?_cut_off :
    declaredCharset? (latePage 1000) = some "iso-8859-1" ∧
      (∀ before rest, latePage 1000 = before ++ rest → ¬ Closed rest (bytesOf "iso-8859-1")) ∧
      ofLabel? "iso-8859-1" ≠ ofLabel? "iso-8859-15" := by
  refine ⟨by decide +kernel, ?_, by decide +kernel⟩
  intro before rest hpage hclosed
  cases hclosed with
  | @quoted quote behind hquote hrest =>
      have hmem : quote ∈ latePage 1000 := by simp [hpage, hrest]
      have hfree : ∀ byte ∈ latePage 1000, isQuoteByte byte = false := by decide +kernel
      rw [hfree quote hmem] at hquote
      cases hquote
  | @bare behind hrest hbehind =>
      -- The first byte of the label, `i`, stands in the page only once.
      have hfound : (List.replicate 1000 0x20 ++ bytesOf "<meta charset=") ++
          0x69 :: bytesOf "so-8859-15>" = before ++ 0x69 :: (bytesOf "so-8859-1" ++ behind) := by
        rw [hrest] at hpage
        rw [← List.cons_append, ← show bytesOf "iso-8859-1" = 0x69 :: bytesOf "so-8859-1" from rfl,
          ← hpage]
        decide +kernel
      obtain ⟨-, -, htail⟩ :=
        (List.append_cons_inj_of_notMem (by decide +kernel) (by decide +kernel)).mp hfound
      have hnext : behind = [0x35, 0x3E] := by
        have hwhole : bytesOf "so-8859-1" ++ behind = bytesOf "so-8859-1" ++ [0x35, 0x3E] := by
          rw [← htail]
          decide +kernel
        exact List.append_cancel_left hwhole
      rw [hnext] at hbehind
      exact absurd (hbehind 0x35 rfl) (by decide)

end HtmlTemplate.Encoding
