import HtmlTemplate.Encoding.Declaration
import HtmlTemplate.Encoding.Decode
import Mathlib.Tactic.SplitIfs

/-!
# Texts in UTF-8

The bytes of a text in UTF-8 are the bytes of its characters. `Utf8.decode` reads the bytes of a
character as that character, whatever precedes and follows (`Utf8.decodeFrom_encodeChar`), so it
reads the bytes of a text as that text and finds nothing faulty (`Utf8.decode_encode`).

The bytes of a text have a byte order mark where the text begins with U+FEFF, and nowhere else
(`byteOrderMark?_encode_mark`, `byteOrderMark?_encode`).
-/

namespace HtmlTemplate.Encoding

/-- The bytes of a text are those of its characters. -/
theorem bytesOf_eq (text : String) : bytesOf text = text.toList.flatMap String.utf8EncodeChar := by
  rw [bytesOf, ← String.utf8Encode_toList, List.utf8Encode, List.toList_data_toByteArray]

namespace Utf8

variable {before : List (Option Char)} {rest : List UInt8} {v : Nat}

/-! ## Single bytes -/

/-- One byte is one step, which adds what it completes to what was read before. -/
theorem decodeFrom_cons (before : List (Option Char)) (current : Option Partial) (byte : UInt8)
    (rest : List UInt8) :
    decodeFrom before current (byte :: rest) =
      decodeFrom ((step current byte).1.reverse ++ before) (step current byte).2 rest := by
  rw [decodeFrom]

/-- Where nothing is owed, a byte starts anew. -/
theorem step_none (byte : UInt8) : step none byte = start byte := rfl

/-- A byte from 0x80 on leads in a character or is faulty. -/
theorem start_of_ge {byte : Nat} (hlow : 0x80 ≤ byte) (hhigh : byte < 0x100) :
    start (UInt8.ofNat byte) =
      (lead? byte).elim ([none], none) fun begun => ([], some begun) := by
  have hbyte : (UInt8.ofNat byte).toNat = byte := UInt8.toNat_ofNat_of_lt' hhigh
  have hlarge : ¬ UInt8.ofNat byte < 0x80 := by
    rw [UInt8.lt_iff_toNat_lt, hbyte]
    exact Nat.not_lt.mpr hlow
  rw [start, if_neg hlarge, hbyte]
  cases lead? byte <;> rfl

/-- A byte below 0x80 is a character. -/
theorem decodeFrom_ascii (h : v < 0x80) :
    decodeFrom before none (UInt8.ofNat v :: rest) =
      decodeFrom (some (Char.ofNat v) :: before) none rest := by
  have hbyte : (UInt8.ofNat v).toNat = v := UInt8.toNat_ofNat_of_lt' (Nat.lt_trans h (by decide))
  have hsmall : UInt8.ofNat v < 0x80 := by
    rw [UInt8.lt_iff_toNat_lt, hbyte]
    exact h
  rw [decodeFrom_cons, step_none, start, if_pos hsmall, hbyte]
  rfl

/-- A byte at which a character begins, of which more bytes are owed. -/
theorem decodeFrom_lead {byte : Nat} {begun : Partial} (hlow : 0x80 ≤ byte) (hhigh : byte < 0x100)
    (h : lead? byte = some begun) :
    decodeFrom before none (UInt8.ofNat byte :: rest) = decodeFrom before (some begun) rest := by
  rw [decodeFrom_cons, step_none, start_of_ge hlow hhigh, h]
  rfl

/-- A byte that is owed and after which more are. -/
theorem decodeFrom_owed {value low high byte : Nat} {next : Nat × Nat} {owed : List (Nat × Nat)}
    (hlow : low ≤ byte) (hhigh : byte ≤ high) (hlt : byte < 0x100) :
    decodeFrom before (some { value, owed := (low, high) :: next :: owed })
        (UInt8.ofNat byte :: rest) =
      decodeFrom before (some { value := value * 0x40 + byte % 0x40, owed := next :: owed })
        rest := by
  have hbyte : (UInt8.ofNat byte).toNat = byte := UInt8.toNat_ofNat_of_lt' hlt
  simp [decodeFrom, step, hbyte, hlow, hhigh]

/-- The last byte that is owed. -/
theorem decodeFrom_last {value low high byte : Nat} (hlow : low ≤ byte) (hhigh : byte ≤ high)
    (hlt : byte < 0x100) :
    decodeFrom before (some { value, owed := [(low, high)] }) (UInt8.ofNat byte :: rest) =
      decodeFrom (some (Char.ofNat (value * 0x40 + byte % 0x40)) :: before) none rest := by
  have hbyte : (UInt8.ofNat byte).toNat = byte := UInt8.toNat_ofNat_of_lt' hlt
  simp [decodeFrom, step, hbyte, hlow, hhigh]

/-! ## Leading bytes -/

/-- The first of two bytes owes one more. -/
theorem lead?_two (hlow : 0x80 ≤ v) (hhigh : v ≤ 0x7FF) :
    lead? (v / 0x40 % 0x20 + 0xC0) = some { value := v / 0x40, owed := [continuation] } := by
  have hrange : 0xC2 ≤ v / 0x40 % 0x20 + 0xC0 ∧ v / 0x40 % 0x20 + 0xC0 ≤ 0xDF := by omega
  have hvalue : (v / 0x40 % 0x20 + 0xC0) % 0x20 = v / 0x40 := by omega
  rw [lead?, if_pos hrange, hvalue]

/-- The range of the second of three bytes holds it: what is left out of it would make a character
that is shorter elsewhere, or a surrogate. -/
theorem lead?_three (hlow : 0x800 ≤ v) (hhigh : v ≤ 0xFFFF) (hvalid : v.isValidChar) :
    ∃ low high, lead? (v / 0x1000 % 0x10 + 0xE0) =
        some { value := v / 0x1000, owed := [(low, high), continuation] } ∧
      low ≤ v / 0x40 % 0x40 + 0x80 ∧ v / 0x40 % 0x40 + 0x80 ≤ high := by
  rw [Nat.isValidChar] at hvalid
  have hvalue : (v / 0x1000 % 0x10 + 0xE0) % 0x10 = v / 0x1000 := by omega
  rw [lead?]
  split_ifs
  · omega
  · exact ⟨0xA0, 0xBF, by rw [show v / 0x1000 = 0 by omega], by omega⟩
  · exact ⟨0x80, 0x9F, by rw [show v / 0x1000 = 0xD by omega], by omega⟩
  · exact ⟨0x80, 0xBF, by rw [hvalue, continuation], by omega⟩
  all_goals omega

/-- The range of the second of four bytes holds it: what is left out of it would make a character
that is shorter elsewhere, or none at all. -/
theorem lead?_four (hlow : 0xFFFF < v) (hvalid : v.isValidChar) :
    ∃ low high, lead? (v / 0x40000 % 0x08 + 0xF0) =
        some { value := v / 0x40000, owed := [(low, high), continuation, continuation] } ∧
      low ≤ v / 0x1000 % 0x40 + 0x80 ∧ v / 0x1000 % 0x40 + 0x80 ≤ high := by
  rw [Nat.isValidChar] at hvalid
  have hvalue : (v / 0x40000 % 0x08 + 0xF0) % 0x08 = v / 0x40000 := by omega
  rw [lead?]
  split_ifs
  · omega
  · omega
  · omega
  · omega
  · exact ⟨0x90, 0xBF, by rw [show v / 0x40000 = 0 by omega], by omega⟩
  · exact ⟨0x80, 0xBF, by rw [hvalue, continuation], by omega⟩
  · exact ⟨0x80, 0x8F, by rw [show v / 0x40000 = 4 by omega], by omega⟩
  · omega

/-! ## Characters and texts -/

/-- The bytes of a character are read as that character. -/
theorem decodeFrom_encodeChar (before : List (Option Char)) (c : Char) (rest : List UInt8) :
    decodeFrom before none (String.utf8EncodeChar c ++ rest) =
      decodeFrom (some c :: before) none rest := by
  have hvalid : c.toNat.isValidChar := c.valid
  have hchar : Char.ofNat c.toNat = c := Char.ofNat_toNat c
  rw [String.utf8EncodeChar, show c.val.toNat = c.toNat from rfl]
  generalize c.toNat = v at hvalid hchar
  split_ifs with hone htwo hthree
  · rw [List.singleton_append, decodeFrom_ascii (by omega), hchar]
  · have hvalue : v / 0x40 * 0x40 + (v % 0x40 + 0x80) % 0x40 = v := by omega
    rw [List.cons_append, List.singleton_append,
      decodeFrom_lead (by omega) (by omega) (lead?_two (by omega) htwo), continuation,
      decodeFrom_last (by omega) (by omega) (by omega), hvalue, hchar]
  · obtain ⟨low, high, hlead, hlow, hhigh⟩ := lead?_three (by omega) hthree hvalid
    have hvalue : (v / 0x1000 * 0x40 + (v / 0x40 % 0x40 + 0x80) % 0x40) * 0x40 +
        (v % 0x40 + 0x80) % 0x40 = v := by omega
    rw [List.cons_append, List.cons_append, List.singleton_append,
      decodeFrom_lead (by omega) (by omega) hlead, decodeFrom_owed hlow hhigh (by omega),
      continuation, decodeFrom_last (by omega) (by omega) (by omega), hvalue, hchar]
  · obtain ⟨low, high, hlead, hlow, hhigh⟩ := lead?_four (by omega) hvalid
    have hvalue : ((v / 0x40000 * 0x40 + (v / 0x1000 % 0x40 + 0x80) % 0x40) * 0x40 +
        (v / 0x40 % 0x40 + 0x80) % 0x40) * 0x40 + (v % 0x40 + 0x80) % 0x40 = v := by omega
    rw [List.cons_append, List.cons_append, List.cons_append, List.singleton_append,
      decodeFrom_lead (by omega) (by omega) hlead, decodeFrom_owed hlow hhigh (by omega),
      continuation, decodeFrom_owed (by omega) (by omega) (by omega),
      decodeFrom_last (by omega) (by omega) (by omega), hvalue, hchar]

/-- What is read of bytes stands behind what precedes them. -/
theorem decodeFrom_eq (before : List (Option Char)) (current : Option Partial)
    (bytes : List UInt8) :
    decodeFrom before current bytes = before.reverse ++ decodeFrom [] current bytes := by
  induction bytes generalizing before current with
  | nil => cases current <;> simp [decodeFrom]
  | cons byte bytes ih =>
      rw [decodeFrom_cons, decodeFrom_cons, ih, ih (_ ++ [])]
      simp

/-- The bytes of a character are read as that character, whatever follows. -/
theorem decode_encodeChar_append (c : Char) (rest : List UInt8) :
    decode (String.utf8EncodeChar c ++ rest) = some c :: decode rest := by
  rw [decode, decodeFrom_encodeChar, decodeFrom_eq, decode]
  rfl

/-- A byte at which no character begins is faulty on its own. -/
theorem decode_cons_of_lead? {byte : Nat} (hlow : 0x80 ≤ byte) (hhigh : byte < 0x100)
    (h : lead? byte = none) (rest : List UInt8) :
    decode (UInt8.ofNat byte :: rest) = none :: decode rest := by
  rw [decode, decodeFrom_cons, step_none, start_of_ge hlow hhigh, h, decodeFrom_eq, decode]
  rfl

/-- The bytes of characters are read as those characters. -/
theorem decode_encode (text : List Char) :
    decode (text.flatMap String.utf8EncodeChar) = text.map some := by
  induction text with
  | nil => rfl
  | cons c text ih => rw [List.flatMap_cons, decode_encodeChar_append, ih, List.map_cons]

end Utf8

/-! ## Byte order marks -/

/-- The bytes of U+FEFF are the mark of UTF-8. -/
theorem byteOrderMark?_encode_mark (text : List Char) :
    byteOrderMark? (('\ufeff' :: text).flatMap String.utf8EncodeChar) =
      some (utf8, text.flatMap String.utf8EncodeChar) := rfl

/-- Bytes with a mark that are those of a text begin with U+FEFF: a reader of UTF-8 finds the marks
of the other encodings faulty. -/
theorem byteOrderMark?_encode {text : List Char} (h : text.head? ≠ some '\ufeff') :
    byteOrderMark? (text.flatMap String.utf8EncodeChar) = none := by
  have hread := Utf8.decode_encode text
  generalize text.flatMap String.utf8EncodeChar = bytes at hread
  rw [byteOrderMark?.eq_def]
  split
  next rest =>
    have hmark : Utf8.decode (0xEF :: 0xBB :: 0xBF :: rest) = some '\ufeff' :: Utf8.decode rest :=
      Utf8.decode_encodeChar_append '\ufeff' rest
    rw [hmark] at hread
    cases text with
    | nil => cases hread
    | cons c text =>
        rw [List.map_cons, List.cons.injEq, Option.some.injEq] at hread
        exact absurd (congrArg some hread.1.symm) h
  next rest =>
    have hfaulty : Utf8.decode (0xFF :: 0xFE :: rest) = none :: Utf8.decode (0xFE :: rest) :=
      Utf8.decode_cons_of_lead? (by decide) (by decide) rfl _
    rw [hfaulty] at hread
    cases text <;> cases hread
  next rest =>
    have hfaulty : Utf8.decode (0xFE :: 0xFF :: rest) = none :: Utf8.decode (0xFF :: rest) :=
      Utf8.decode_cons_of_lead? (by decide) (by decide) rfl _
    rw [hfaulty] at hread
    cases text <;> cases hread
  · rfl

end HtmlTemplate.Encoding
