import HtmlTemplate.Proofs.Encoding.Declared

/-!
# Searching by positions

`Scan.declaredCharset` searches a page in memory, where a part of the bytes is taken by the
positions at which it starts and stops. Positions that are out of order or out of range are an
error, and so are windows without a byte in them. `declaredCharset_scanned` shows that no page leads
to an error and that the search finds what the page declares.

Each step of the search keeps within its bytes for a reason of its own: a window that is found has
room for the key (`position?_eq`), and a token stops at a byte that was found or at the end of the
bytes (`tokenRange_eq`).
-/

namespace HtmlTemplate.Encoding

namespace Scan

/-- Why a part of the bytes cannot be taken. -/
inductive RangeError where
  /-- From `start` up to `stop`, of `length` bytes. -/
  | outOfRange (start stop length : Nat)
  | emptyWindow
  deriving DecidableEq

/-- The bytes from `start` up to `stop`. -/
def slice (bytes : List UInt8) (start stop : Nat) : Except RangeError (List UInt8) :=
  if start ≤ stop ∧ stop ≤ bytes.length then .ok ((bytes.take stop).drop start)
  else .error (.outOfRange start stop bytes.length)

/-- The bytes from `start` on. -/
def sliceFrom (bytes : List UInt8) (start : Nat) : Except RangeError (List UInt8) :=
  slice bytes start bytes.length

/-- The parts of `size` bytes, by the positions at which they start. -/
def windowsOf (size : Nat) (bytes : List UInt8) : List (List UInt8) :=
  (List.range (bytes.length + 1 - size)).map fun start => (bytes.drop start).take size

/-- Like `windowsOf`, for windows with a byte in them. -/
def windows (size : Nat) (bytes : List UInt8) : Except RangeError (List (List UInt8)) :=
  if size = 0 then .error .emptyWindow else .ok (windowsOf size bytes)

/-- The position of the first window that is `key` up to `same`. -/
def position? (same : UInt8 → UInt8 → Bool) (key bytes : List UInt8) :
    Except RangeError (Option Nat) := do
  return (← windows key.length bytes).findIdx? (key.isEqv · same)

/-- Where the token at the start of the bytes starts and stops. -/
def tokenRange (bytes : List UInt8) : Except RangeError (Option (Nat × Nat)) :=
  match bytes.head? with
  | none => return none
  | some first => do
    if isQuoteByte first then
      return ((← sliceFrom bytes 1).findIdx? (· == first)).map fun length => (1, 1 + length)
    else return some (0, (bytes.findIdx? endsToken).getD bytes.length)

/-- The token behind `key`, unless it is empty or not a text. -/
def valueAfter (key : String) (bytes : List UInt8) : Except RangeError (Option String) := do
  match ← position? sameByte (bytesOf key) bytes with
  | none => return none
  | some position =>
    let rest ← sliceFrom bytes (position + (bytesOf key).length)
    match ← tokenRange rest with
    | none => return none
    | some (start, stop) =>
      if start = stop then return none
      else return Utf8.text? (← slice rest start stop)

/-- The token behind `encoding=` at or behind the start of an XML declaration. -/
def xmlEncoding (head : List UInt8) : Except RangeError (Option String) := do
  match ← position? (· == ·) (bytesOf "<?xml") head with
  | none => return none
  | some position => valueAfter "encoding=" (← sliceFrom head position)

/-- The label of the encoding that a page declares. -/
def declaredCharset (bytes : List UInt8) : Except RangeError (Option String) := do
  let head ← slice bytes 0 (min bytes.length declarationLimit)
  match ← xmlEncoding head with
  | some label => return some label
  | none => valueAfter "charset=" head

variable {same : UInt8 → UInt8 → Bool} {key bytes : List UInt8} {byte : UInt8}
  {start stop size : Nat}

/-! ## Parts of bytes -/

/-- A slice with bounds in order and in range is what stands between them. -/
theorem slice_eq (hstart : start ≤ stop) (hstop : stop ≤ bytes.length) :
    slice bytes start stop = .ok ((bytes.take stop).drop start) :=
  if_pos ⟨hstart, hstop⟩

/-- A slice is empty exactly when it ends where it starts. -/
theorem isEmpty_slice (hstart : start ≤ stop) (hstop : stop ≤ bytes.length) :
    ((bytes.take stop).drop start).isEmpty = decide (start = stop) := by
  rw [Bool.eq_iff_iff, List.isEmpty_iff, List.drop_eq_nil_iff, List.length_take, decide_eq_true_eq]
  omega

/-- A slice from a position in range on is what is left behind that position. -/
theorem sliceFrom_eq (h : start ≤ bytes.length) :
    sliceFrom bytes start = .ok (bytes.drop start) := by
  rw [sliceFrom, slice_eq h (Nat.le_refl _), List.take_length]

/-- The first window starts at the first byte, and the others are those of the bytes behind it. -/
theorem windowsOf_cons (h : size ≤ bytes.length + 1) :
    windowsOf size (byte :: bytes) = (byte :: bytes).take size :: windowsOf size bytes := by
  have hcount : (byte :: bytes).length + 1 - size = bytes.length + 1 - size + 1 := by
    rw [List.length_cons]
    omega
  rw [windowsOf, hcount, List.range_succ_eq_map, List.map_cons, List.map_map, windowsOf]
  rfl

/-- Bytes that are fewer than a window takes have no window. -/
theorem windowsOf_of_short (h : bytes.length < size) : windowsOf size bytes = [] := by
  rw [windowsOf, Nat.sub_eq_zero_of_le h]
  rfl

/-! ## Keys -/

/-- Bytes start with a key when their first window is the key. -/
theorem startsWith_eq (same : UInt8 → UInt8 → Bool) (key bytes : List UInt8) :
    startsWith same key bytes = key.isEqv (bytes.take key.length) same := by
  induction key generalizing bytes with
  | nil => rfl
  | cons k key ih =>
      cases bytes with
      | nil => rfl
      | cons byte bytes => rw [startsWith, ih, List.length_cons, List.take_succ_cons, List.isEqv]

/-- A key does not occur in bytes that are fewer than its own. -/
theorem fromFirst?_of_short (h : bytes.length < key.length) : fromFirst? same key bytes = none := by
  rw [fromFirst?_eq_none_iff]
  rintro ⟨before, word, rest, rfl, hspells⟩
  rw [hspells.length_eq, List.length_append, List.length_append] at h
  omega

/-- The first window that is the key stands where the key occurs first. -/
theorem fromFirst?_eq_windowsOf (hkey : key ≠ []) (bytes : List UInt8) :
    fromFirst? same key bytes =
      ((windowsOf key.length bytes).findIdx? (key.isEqv · same)).map (bytes.drop ·) := by
  induction bytes with
  | nil =>
      have hshort : ([] : List UInt8).length < key.length := List.length_pos_iff.mpr hkey
      rw [fromFirst?_of_short hshort, windowsOf_of_short hshort]
      rfl
  | cons byte bytes ih =>
      -- A byte more is a window more, unless the key does not fit in at all.
      by_cases hroom : key.length ≤ bytes.length + 1
      · rw [fromFirst?, windowsOf_cons hroom, List.findIdx?_cons, ← startsWith_eq, ih]
        split
        · rfl
        · rw [Option.map_map]
          rfl
      · have hshort : (byte :: bytes).length < key.length := by
          rw [List.length_cons]
          omega
        rw [fromFirst?_of_short hshort, windowsOf_of_short hshort]
        rfl

/-- A key is found where it occurs first, with room for it there. -/
theorem position?_eq (same : UInt8 → UInt8 → Bool) (hkey : key ≠ []) (bytes : List UInt8) :
    ∃ found, position? same key bytes = .ok found ∧
      fromFirst? same key bytes = found.map (bytes.drop ·) ∧
      ∀ position, found = some position → position + key.length ≤ bytes.length := by
  refine ⟨_, ?_, fromFirst?_eq_windowsOf hkey bytes, fun position hfound => ?_⟩
  · rw [position?, windows, if_neg (mt List.length_eq_zero_iff.mp hkey)]
    rfl
  · obtain ⟨hposition, -⟩ := List.findIdx?_eq_some_iff_findIdx_eq.mp hfound
    rw [windowsOf, List.length_map, List.length_range] at hposition
    omega

/-! ## Tokens -/

/-- A token in quotes starts behind the quote and stops at the next quote of its kind, if there is
one. -/
theorem tokenRange_quoted (h : isQuoteByte byte = true) :
    tokenRange (byte :: bytes) =
      .ok ((bytes.findIdx? (· == byte)).map fun length => (1, 1 + length)) := by
  have hinside : sliceFrom (byte :: bytes) 1 = .ok bytes := sliceFrom_eq (Nat.le_add_left _ _)
  simp only [tokenRange, List.head?_cons, h, if_true, hinside]
  rfl

/-- A token without quotes goes to the first byte that ends it, or to the end. -/
theorem tokenRange_bare (h : isQuoteByte byte = false) :
    tokenRange (byte :: bytes) = .ok (some (0, (byte :: bytes).findIdx endsToken)) := by
  simp only [tokenRange, List.head?_cons, h, Bool.false_eq_true, if_false,
    List.findIdx_eq_getD_findIdx?]
  rfl

/-- A byte has no position exactly when it does not occur. -/
theorem findIdx?_byte_eq_none_iff : bytes.findIdx? (· == byte) = none ↔ byte ∉ bytes := by
  rw [List.findIdx?_eq_none_iff]
  exact ⟨fun h hmem => by simpa using h byte hmem,
    fun h b hb => by simpa using ne_of_mem_of_not_mem hb h⟩

/-- What stands before the first place of a byte is as long as the position of that place. -/
theorem takeWhile_ne_eq_take {length : Nat} (h : bytes.findIdx? (· == byte) = some length) :
    bytes.takeWhile (· != byte) = bytes.take length := by
  obtain ⟨-, hfound⟩ := List.findIdx?_eq_some_iff_findIdx_eq.mp h
  rw [List.takeWhile_eq_take_findIdx_not]
  simp only [bne, Bool.not_not, hfound]

/-- The range of a token lies within the bytes and holds the token. -/
theorem tokenRange_eq (bytes : List UInt8) :
    ∃ range, tokenRange bytes = .ok range ∧
      tokenBytes? bytes = range.map (fun range => (bytes.take range.2).drop range.1) ∧
      ∀ start stop, range = some (start, stop) → start ≤ stop ∧ stop ≤ bytes.length := by
  cases bytes with
  | nil => exact ⟨none, rfl, rfl, nofun⟩
  | cons byte bytes =>
      rw [tokenBytes?]
      cases hquote : isQuoteByte byte with
      | true =>
          refine ⟨_, tokenRange_quoted hquote, ?_⟩
          -- A token in quotes has a range only if a second quote closes it.
          cases hclosed : bytes.findIdx? (· == byte) with
          | none =>
              have hopen : byte ∉ bytes := findIdx?_byte_eq_none_iff.mp hclosed
              simp [hopen]
          | some length =>
              obtain ⟨hlength, -⟩ := List.findIdx?_eq_some_iff_findIdx_eq.mp hclosed
              have hmem : byte ∈ bytes := by
                by_contra hopen
                rw [findIdx?_byte_eq_none_iff.mpr hopen] at hclosed
                cases hclosed
              refine ⟨?_, ?_⟩
              · simp [hmem, takeWhile_ne_eq_take hclosed, Nat.add_comm 1]
              · rintro start stop ⟨⟩
                rw [List.length_cons]
                omega
      | false =>
          refine ⟨_, tokenRange_bare hquote, ?_, ?_⟩
          · simp [List.takeWhile_eq_take_findIdx_not]
          · rintro start stop ⟨⟩
            exact ⟨Nat.zero_le _, List.findIdx_le_length⟩

/-- The search behind a key keeps within its bytes. -/
theorem valueAfter_eq {key : String} (hkey : bytesOf key ≠ []) (bytes : List UInt8) :
    valueAfter key bytes = .ok (valueAfter? key bytes) := by
  obtain ⟨found, hfound, hfirst, hroom⟩ := position?_eq sameByte hkey bytes
  rw [valueAfter, hfound, valueAfter?, afterFirst?, hfirst]
  cases found with
  | none => rfl
  | some position =>
      obtain ⟨range, hrange, htoken, hinside⟩ :=
        tokenRange_eq (bytes.drop (position + (bytesOf key).length))
      simp only [bind, Except.bind, sliceFrom_eq (hroom position rfl), hrange, Option.map_some,
        List.drop_drop, Option.bind_some, htoken]
      cases range with
      | none => rfl
      | some range =>
          obtain ⟨start, stop⟩ := range
          obtain ⟨hstart, hstop⟩ := hinside start stop rfl
          simp only [slice_eq hstart hstop]
          simp only [Option.map_some, Option.bind_some, isEmpty_slice hstart hstop]
          -- An empty token is no value, which shows in its range.
          by_cases hsame : start = stop
          · rw [if_pos hsame, decide_eq_true hsame]
            rfl
          · rw [if_neg hsame, decide_eq_false hsame]
            rfl

/-- The search by positions in an XML declaration never leaves the bytes, and finds what
`xmlEncoding?` finds. -/
theorem xmlEncoding_eq (head : List UInt8) : xmlEncoding head = .ok (xmlEncoding? head) := by
  have hkey : bytesOf "<?xml" ≠ [] := by decide
  obtain ⟨found, hfound, hfirst, hroom⟩ := position?_eq (· == ·) hkey head
  rw [xmlEncoding, hfound, xmlEncoding?, hfirst]
  cases found with
  | none => rfl
  | some position =>
      have hinside : position ≤ head.length :=
        Nat.le_trans (Nat.le_add_right _ _) (hroom position rfl)
      simp only [bind, Except.bind, sliceFrom_eq hinside]
      exact valueAfter_eq (by decide) _

/-- The search by positions never leaves the bytes, and finds what `declaredCharset?` finds. -/
theorem declaredCharset_eq (bytes : List UInt8) :
    declaredCharset bytes = .ok (declaredCharset? bytes) := by
  have hhead : slice bytes 0 (min bytes.length declarationLimit) =
      .ok (bytes.take declarationLimit) := by
    rw [slice_eq (Nat.zero_le _) (Nat.min_le_left _ _), List.drop_zero, Nat.min_comm,
      ← List.take_eq_take_min]
  simp only [declaredCharset, hhead, bind, Except.bind, xmlEncoding_eq, declaredCharset?]
  cases xmlEncoding? (bytes.take declarationLimit) with
  | some label => rfl
  | none => exact valueAfter_eq (by decide) _

end Scan

/-- The search by positions never takes bytes that are out of range, and it finds the label that the
first kilobyte of the page declares. -/
theorem declaredCharset_scanned (bytes : List UInt8) :
    Scan.declaredCharset bytes = .ok (declaredCharset? bytes) ∧
      ∀ label, declaredCharset? bytes = some label ↔ Declares (bytes.take 1024) label :=
  ⟨Scan.declaredCharset_eq bytes, fun _ => declaredCharset?_eq_some_iff⟩

end HtmlTemplate.Encoding
