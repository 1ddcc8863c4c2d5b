import HtmlTemplate.Proofs.Encoding.Utf8
import Mathlib.Data.List.Forall2

/-!
# Which bytes are UTF-8

`Utf8.decode` finds bytes faulty unless they are those of a text (`Utf8.exists_text`), so the bytes
that it reads without fault are those of texts and no others (`isFaulty_decode_iff`). While a
character is under way, `Utf8.Begins` says of the bytes read since the last one that whatever the
decoder still accepts makes them the bytes of a character. A byte that is not faulty keeps this
(`Utf8.Awaits.step`), and the rest is induction on the bytes.
-/

namespace HtmlTemplate.Encoding

namespace Utf8

/-- A byte lies in a range in which a byte is owed. -/
def InRange (range : Nat × Nat) (byte : UInt8) : Prop :=
  range.1 ≤ byte.toNat ∧ byte.toNat ≤ range.2

/-- The bytes `front` begin a character: some more are owed, and any in the ranges owed make it
whole. -/
structure Begins (front : List UInt8) (begun : Partial) : Prop where
  owes : begun.owed ≠ []
  completes : ∀ tail, List.Forall₂ InRange begun.owed tail →
    ∃ c, front ++ tail = String.utf8EncodeChar c

/-- The bytes `front`, read since the last character, leave the decoder with `current` under way. -/
def Awaits (front : List UInt8) : Option Partial → Prop
  | none => front = []
  | some begun => Begins front begun

variable {front bytes : List UInt8} {byte : UInt8} {v low high value : Nat}

/-! ## The bytes of a character -/

/-- The bytes of the character with a given number. -/
theorem encodeChar_ofNat (h : v.isValidChar) :
    String.utf8EncodeChar (Char.ofNat v) =
      if v ≤ 0x7F then [UInt8.ofNat v]
      else if v ≤ 0x7FF then [UInt8.ofNat (v / 0x40 % 0x20 + 0xC0), UInt8.ofNat (v % 0x40 + 0x80)]
      else if v ≤ 0xFFFF then
        [UInt8.ofNat (v / 0x1000 % 0x10 + 0xE0), UInt8.ofNat (v / 0x40 % 0x40 + 0x80),
          UInt8.ofNat (v % 0x40 + 0x80)]
      else
        [UInt8.ofNat (v / 0x40000 % 0x08 + 0xF0), UInt8.ofNat (v / 0x1000 % 0x40 + 0x80),
          UInt8.ofNat (v / 0x40 % 0x40 + 0x80), UInt8.ofNat (v % 0x40 + 0x80)] := by
  have hvalue : (Char.ofNat v).val.toNat = v := by
    rw [Char.ofNat, dif_pos h]
    rfl
  rw [String.utf8EncodeChar, hvalue]

/-- A byte is known by its value. -/
theorem ofNat_eq_of_toNat (byte : UInt8) (h : v = byte.toNat) : UInt8.ofNat v = byte := by
  rw [h, UInt8.ofNat_toNat]

/-- A byte below `0x80` is a character. -/
theorem exists_char_one (h : byte < 0x80) : ∃ c, [byte] = String.utf8EncodeChar c := by
  have hlt : byte.toNat < 0x80 := UInt8.lt_iff_toNat_lt.mp h
  refine ⟨Char.ofNat byte.toNat, ?_⟩
  rw [encodeChar_ofNat (Or.inl (by omega)), if_pos (by omega), UInt8.ofNat_toNat]

/-- A byte that continues a character. -/
theorem continuation_iff :
    InRange continuation byte ↔ 0x80 ≤ byte.toNat ∧ byte.toNat ≤ 0xBF := Iff.rfl

/-- A byte from `0xC2` to `0xDF` begins a character of two bytes. -/
theorem begins_two (hbyte : 0xC2 ≤ byte.toNat ∧ byte.toNat ≤ 0xDF) :
    Begins [byte] { value, owed := [continuation] } where
  owes := List.cons_ne_nil _ _
  completes tail htail := by
    rcases htail with _ | ⟨hsecond, _ | _⟩
    next second =>
    obtain ⟨v, hv⟩ : ∃ v, v = byte.toNat % 0x20 * 0x40 + second.toNat % 0x40 := ⟨_, rfl⟩
    rw [continuation_iff] at hsecond
    have hvalid : v.isValidChar := Or.inl (by omega)
    refine ⟨Char.ofNat v, ?_⟩
    rw [encodeChar_ofNat hvalid, if_neg (by omega), if_pos (by omega),
      ofNat_eq_of_toNat byte (by omega), ofNat_eq_of_toNat second (by omega)]
    rfl

/-- What the range of the second byte leaves out would be a character that is shorter elsewhere, or
a surrogate. -/
theorem begins_three (hbyte : 0xE0 ≤ byte.toNat ∧ byte.toNat ≤ 0xEF)
    (hrange : 0x80 ≤ low ∧ high ≤ 0xBF) (hshort : byte.toNat = 0xE0 → 0xA0 ≤ low)
    (hsurrogate : byte.toNat = 0xED → high ≤ 0x9F) :
    Begins [byte] { value, owed := [(low, high), continuation] } where
  owes := List.cons_ne_nil _ _
  completes tail htail := by
    rcases htail with _ | ⟨hsecond, _ | ⟨hthird, _ | _⟩⟩
    next second third =>
    obtain ⟨v, hv⟩ : ∃ v, v =
      (byte.toNat % 0x10 * 0x40 + second.toNat % 0x40) * 0x40 + third.toNat % 0x40 := ⟨_, rfl⟩
    rw [InRange] at hsecond
    rw [continuation_iff] at hthird
    have hvalid : v.isValidChar := by
      rw [Nat.isValidChar]
      omega
    refine ⟨Char.ofNat v, ?_⟩
    rw [encodeChar_ofNat hvalid, if_neg (by omega), if_neg (by omega), if_pos (by omega),
      ofNat_eq_of_toNat byte (by omega), ofNat_eq_of_toNat second (by omega),
      ofNat_eq_of_toNat third (by omega)]
    rfl

/-- What the range of the second byte leaves out would be a character that is shorter elsewhere, or
none at all. -/
theorem begins_four (hbyte : 0xF0 ≤ byte.toNat ∧ byte.toNat ≤ 0xF4)
    (hrange : 0x80 ≤ low ∧ high ≤ 0xBF) (hshort : byte.toNat = 0xF0 → 0x90 ≤ low)
    (hlast : byte.toNat = 0xF4 → high ≤ 0x8F) :
    Begins [byte] { value, owed := [(low, high), continuation, continuation] } where
  owes := List.cons_ne_nil _ _
  completes tail htail := by
    rcases htail with _ | ⟨hsecond, _ | ⟨hthird, _ | ⟨hfourth, _ | _⟩⟩⟩
    next second third fourth =>
    obtain ⟨v, hv⟩ : ∃ v, v =
      ((byte.toNat % 0x08 * 0x40 + second.toNat % 0x40) * 0x40 + third.toNat % 0x40) * 0x40 +
        fourth.toNat % 0x40 := ⟨_, rfl⟩
    rw [InRange] at hsecond
    rw [continuation_iff] at hthird hfourth
    have hvalid : v.isValidChar := by
      rw [Nat.isValidChar]
      omega
    refine ⟨Char.ofNat v, ?_⟩
    rw [encodeChar_ofNat hvalid, if_neg (by omega), if_neg (by omega), if_neg (by omega),
      ofNat_eq_of_toNat byte (by omega), ofNat_eq_of_toNat second (by omega),
      ofNat_eq_of_toNat third (by omega), ofNat_eq_of_toNat fourth (by omega)]
    rfl

/-- A leading byte begins a character. -/
theorem begins_lead {begun : Partial} (h : lead? byte.toNat = some begun) :
    Begins [byte] begun := by
  rw [lead?] at h
  split_ifs at h with htwo hshort hsurrogate hthree hfourShort hfour hlast <;> cases h
  · exact begins_two htwo
  · exact begins_three (by omega) (by omega) (by omega) (by omega)
  · exact begins_three (by omega) (by omega) (by omega) (by omega)
  · exact begins_three (by omega) (by decide) (by omega) (by omega)
  · exact begins_four (by omega) (by omega) (by omega) (by omega)
  · exact begins_four (by omega) (by decide) (by omega) (by omega)
  · exact begins_four (by omega) (by omega) (by omega) (by omega)

/-! ## Characters under way -/

/-- A byte at which a character begins and that is not faulty is the character or begins it. -/
theorem awaits_start (hread : none ∉ (start byte).1) :
    ∃ (text : List Char) (behind : List UInt8),
      [byte] = text.flatMap String.utf8EncodeChar ++ behind ∧ Awaits behind (start byte).2 := by
  rw [start] at hread ⊢
  split_ifs at hread ⊢ with hsmall
  · obtain ⟨c, hc⟩ := exists_char_one hsmall
    exact ⟨[c], [], by simp [hc], rfl⟩
  · cases hlead : lead? byte.toNat with
    | none => simp [hlead] at hread
    | some begun => exact ⟨[], [byte], rfl, begins_lead hlead⟩

/-- A byte that is not faulty ends a character or leaves one under way. -/
theorem Awaits.step {current : Option Partial} (h : Awaits front current)
    (hread : none ∉ (step current byte).1) :
    ∃ (text : List Char) (behind : List UInt8),
      front ++ [byte] = text.flatMap String.utf8EncodeChar ++ behind ∧
        Awaits behind (Utf8.step current byte).2 := by
  match current, h with
  | none, h =>
      cases show front = [] from h
      exact awaits_start hread
  | some { value, owed := [] }, h => exact absurd rfl h.owes
  | some { value, owed := (low, high) :: owed }, h =>
      by_cases hrange : low ≤ byte.toNat ∧ byte.toNat ≤ high
      · cases owed with
        | nil =>
            obtain ⟨c, hc⟩ := h.completes [byte] (.cons hrange .nil)
            refine ⟨[c], [], by simp [hc], ?_⟩
            simp only [Utf8.step, hrange, and_self, if_true]
            rfl
        | cons range owed =>
            refine ⟨[], front ++ [byte], rfl, ?_⟩
            simp only [Utf8.step, hrange, and_self, if_true]
            refine ⟨List.cons_ne_nil _ _, fun tail htail => ?_⟩
            rw [List.append_assoc]
            exact h.completes (byte :: tail) (.cons hrange htail)
      · simp [Utf8.step, hrange] at hread

/-- Bytes in which nothing is found faulty are those of a text. -/
theorem exists_text {current : Option Partial} (h : Awaits front current)
    (hread : none ∉ decodeFrom [] current bytes) :
    ∃ text : List Char, front ++ bytes = text.flatMap String.utf8EncodeChar := by
  induction bytes generalizing front current with
  | nil =>
      cases current with
      | none =>
          cases show front = [] from h
          exact ⟨[], rfl⟩
      | some begun => exact absurd (List.mem_singleton.mpr rfl) hread
  | cons byte bytes ih =>
      rw [decodeFrom_cons, decodeFrom_eq, List.append_nil, List.reverse_reverse, List.mem_append,
        not_or] at hread
      obtain ⟨text, behind, hfront, hbehind⟩ := h.step hread.1
      obtain ⟨rest, hrest⟩ := ih hbehind hread.2
      refine ⟨text ++ rest, ?_⟩
      rw [List.append_cons, hfront, List.append_assoc, hrest, List.flatMap_append]

end Utf8

/-- Bytes are read without fault as UTF-8 exactly when they are those of a text. -/
theorem isFaulty_decode_iff {bytes : List UInt8} :
    isFaulty (Utf8.decode bytes) = false ↔ ∃ page, bytes = bytesOf page := by
  constructor
  · intro hfaulty
    have hread : none ∉ Utf8.decode bytes := by
      intro hmem
      rw [isFaulty, List.any_eq_false] at hfaulty
      exact absurd rfl (hfaulty none hmem)
    obtain ⟨text, htext⟩ := Utf8.exists_text (show Utf8.Awaits [] none from rfl) hread
    refine ⟨String.ofList text, ?_⟩
    rw [bytesOf_eq, String.toList_ofList, ← htext, List.nil_append]
  · rintro ⟨page, rfl⟩
    simp [isFaulty, bytesOf_eq, Utf8.decode_encode]

/-- The bytes of a text are read as that text. -/
theorem textOf_decode_bytesOf (page : String) : textOf (Utf8.decode (bytesOf page)) = page := by
  simp [textOf, bytesOf_eq, Utf8.decode_encode, Function.comp_def]

end HtmlTemplate.Encoding
