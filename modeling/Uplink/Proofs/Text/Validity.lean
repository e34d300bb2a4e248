/-
Module: Uplink.Proofs.Text.Validity
Purpose: The bytes of texts are what the standard library calls valid UTF-8, and a text may be cut and
  patched between its characters.
Main exports: encoded_iff_isValidUTF8, toByteArray_eq_iff, Encoded.cut, Encoded.patch, EncodedUpTo
-/
import Uplink.Proofs.Text.Utf8

namespace Uplink.Text

/-! ### The standard library's encoding -/

/-- The bytes of a character are those of the standard library. -/
theorem utf8Char_eq (character : Char) : utf8Char character = String.utf8EncodeChar character := by
  have valid : character.toNat < 0xD800 ∨ 0xDFFF < character.toNat ∧ character.toNat < 0x110000 :=
    character.valid
  have same : character.val.toNat = character.toNat := rfl
  simp only [utf8Char, String.utf8EncodeChar, same]
  by_cases one : character.toNat < 0x80
  · rw [if_pos one, if_pos (Nat.le_of_lt_succ one)]
  · have notOne : ¬ character.toNat ≤ 127 := by omega
    by_cases two : character.toNat < 0x800
    · rw [if_neg one, if_pos two, if_neg notOne, if_pos (Nat.le_of_lt_succ two)]
      simp only [List.cons.injEq, and_true, ← UInt8.toNat_inj, UInt8.toNat_ofNat']
      omega
    · have notTwo : ¬ character.toNat ≤ 2047 := by omega
      by_cases three : character.toNat < 0x10000
      · rw [if_neg one, if_neg two, if_pos three, if_neg notOne, if_neg notTwo,
          if_pos (Nat.le_of_lt_succ three)]
        simp only [List.cons.injEq, and_true, ← UInt8.toNat_inj, UInt8.toNat_ofNat']
        omega
      · have notThree : ¬ character.toNat ≤ 65535 := by omega
        rw [if_neg one, if_neg two, if_neg three, if_neg notOne, if_neg notTwo, if_neg notThree]
        simp only [List.cons.injEq, and_true, ← UInt8.toNat_inj, UInt8.toNat_ofNat']
        omega

theorem utf8Char_ne_nil (character : Char) : utf8Char character ≠ [] := by
  rw [utf8Char_eq]
  exact String.utf8EncodeChar_ne_nil

theorem utf8Encode_eq (characters : List Char) :
    (utf8Encode characters).toByteArray = characters.utf8Encode := by
  have same : utf8Char = String.utf8EncodeChar := funext utf8Char_eq
  rw [utf8Encode, List.utf8Encode, same]

/-- The bytes of a text are those of the standard library. -/
theorem toByteArray_eq_iff {bytes : List UInt8} {text : String} :
    text.toByteArray = bytes.toByteArray ↔ bytesOfText text = bytes := by
  rw [← String.utf8Encode_toList, ← utf8Encode_eq, List.toByteArray_inj, bytesOfText]

/-- Encoded bytes are the valid UTF-8 of the standard library. -/
theorem encoded_iff_isValidUTF8 {bytes : List UInt8} : Encoded bytes ↔ bytes.toByteArray.IsValidUTF8 := by
  constructor
  · rintro ⟨text, same⟩
    rw [← toByteArray_eq_iff.2 same]
    exact text.isValidUTF8
  · intro valid
    exact ⟨.ofByteArray bytes.toByteArray valid, toByteArray_eq_iff.1 rfl⟩

/-! ### Cutting and patching -/

theorem encoded_nil : Encoded [] := ⟨"", rfl⟩

/-- Bytes of the ASCII range are a text. -/
theorem encoded_of_small {bytes : List UInt8} (small : ∀ byte ∈ bytes, byte.toNat < 0x80) :
    Encoded bytes := by
  apply encoded_ascii
  rw [List.all_eq_true]
  exact fun byte isMember => decide_eq_true (small byte isMember)

theorem encoded_utf8Encode (characters : List Char) : Encoded (utf8Encode characters) :=
  .flatMap encoded_utf8Char

/-- What follows a character in a text is a text. -/
theorem Encoded.of_utf8Char {character : Char} {rest : List UInt8}
    (encoded : Encoded (utf8Char character ++ rest)) : Encoded rest := by
  have single : (utf8Char character).toByteArray = [character].utf8Encode := by
    rw [← utf8Encode_eq, utf8Encode, List.flatMap_singleton]
  rw [encoded_iff_isValidUTF8, List.toByteArray_append, single,
    ByteArray.isValidUTF8_utf8Encode_singleton_append_iff] at encoded
  exact encoded_iff_isValidUTF8.2 encoded

/-- What follows a text in a text is a text. -/
theorem Encoded.right {front back : List UInt8} (encoded : Encoded (front ++ back))
    (isText : Encoded front) : Encoded back := by
  obtain ⟨text, rfl⟩ := isText
  rw [bytesOfText] at encoded
  generalize text.toList = characters at encoded
  induction characters with
  | nil => exact encoded
  | cons character rest ih =>
      rw [utf8Encode, List.flatMap_cons, List.append_assoc] at encoded
      exact ih encoded.of_utf8Char

/-- A text that is not empty begins with the first byte of a character. -/
theorem Encoded.isUTF8FirstByte {first : UInt8} {rest : List UInt8} (encoded : Encoded (first :: rest)) :
    first.IsUTF8FirstByte := by
  have valid := encoded_iff_isValidUTF8.1 encoded
  have bound : 0 < (first :: rest).toByteArray.size := by
    rw [List.size_toByteArray, List.length_cons]
    exact Nat.succ_pos _
  have isFirst := valid.isUTF8FirstByte_getElem_zero bound
  rwa [List.getElem_toByteArray, List.getElem_cons_zero] at isFirst

/-- Inside a character no byte is the first one of a character. -/
theorem eq_nil_of_utf8Char {character : Char} {front back : List UInt8} {byte : UInt8}
    (same : utf8Char character = front ++ byte :: back) (isFirst : byte.IsUTF8FirstByte) : front = [] := by
  rw [utf8Char_eq] at same
  have bound : front.length < (String.utf8EncodeChar character).length := by
    rw [same, List.length_append, List.length_cons]
    omega
  have isByte : (String.utf8EncodeChar character)[front.length] = byte := by
    simp only [same, List.getElem_append_right (Nat.le_refl _), Nat.sub_self, List.getElem_cons_zero]
  rw [← isByte, UInt8.isUTF8FirstByte_getElem_utf8EncodeChar] at isFirst
  exact List.length_eq_zero_iff.1 isFirst

/-- A text may be cut in front of every byte that is the first one of a character. -/
theorem Encoded.cut {front back : List UInt8} {byte : UInt8} (encoded : Encoded (front ++ byte :: back))
    (isFirst : byte.IsUTF8FirstByte) : Encoded front ∧ Encoded (byte :: back) := by
  obtain ⟨text, same⟩ := encoded
  rw [bytesOfText] at same
  generalize text.toList = characters at same
  induction characters generalizing front with
  | nil => exact absurd same.symm (List.append_ne_nil_of_right_ne_nil front (List.cons_ne_nil byte back))
  | cons character rest ih =>
      rw [utf8Encode, List.flatMap_cons, ← utf8Encode] at same
      rcases List.append_eq_append_iff.1 same with ⟨more, isFront, isRest⟩ | ⟨more, isChar, isBack⟩
      · obtain ⟨isText, others⟩ := ih isRest
        rw [isFront]
        exact ⟨(encoded_utf8Char character).append isText, others⟩
      · cases more with
        | nil =>
            rw [List.append_nil] at isChar
            rw [← isChar, isBack, List.nil_append]
            exact ⟨encoded_utf8Char character, encoded_utf8Encode rest⟩
        | cons first others =>
            rw [List.cons_append, List.cons.injEq] at isBack
            obtain ⟨rfl, isBack⟩ := isBack
            -- The cut is inside the character, so it is in front of it.
            have isNil := eq_nil_of_utf8Char isChar isFirst
            rw [isNil] at isChar ⊢
            rw [List.nil_append] at isChar
            refine ⟨encoded_nil, ?_⟩
            rw [isBack, ← List.cons_append, ← isChar]
            exact (encoded_utf8Char character).append (encoded_utf8Encode rest)

/-- Inside a text any piece that is itself a text may be exchanged for another one. -/
theorem Encoded.patch {front middle back other : List UInt8} (encoded : Encoded (front ++ (middle ++ back)))
    (isText : Encoded middle) (notEmpty : middle ≠ []) (isOther : Encoded other) :
    Encoded (front ++ (other ++ back)) := by
  obtain ⟨first, rest, rfl⟩ := List.exists_cons_of_ne_nil notEmpty
  obtain ⟨before, behind⟩ := encoded.cut isText.isUTF8FirstByte
  exact before.append (isOther.append (behind.right isText))

/-! ### Reading a text from the front -/

/-- What stands in front of the rest is a text. -/
def EncodedUpTo (bytes rest : List UInt8) : Prop :=
  ∃ front, Encoded front ∧ bytes = front ++ rest

namespace EncodedUpTo

variable {bytes between rest : List UInt8} {byte : UInt8}

theorem refl (bytes : List UInt8) : EncodedUpTo bytes bytes :=
  ⟨[], encoded_nil, rfl⟩

theorem trans (first : EncodedUpTo bytes between) (second : EncodedUpTo between rest) :
    EncodedUpTo bytes rest := by
  obtain ⟨front, isFront, rfl⟩ := first
  obtain ⟨back, isBack, rfl⟩ := second
  exact ⟨front ++ back, isFront.append isBack, (List.append_assoc ..).symm⟩

theorem ascii {front : List UInt8} (small : ∀ byte ∈ front, byte.toNat < 0x80) (rest : List UInt8) :
    EncodedUpTo (front ++ rest) rest :=
  ⟨front, encoded_of_small small, rfl⟩

theorem cons (small : byte.toNat < 0x80) (tail : EncodedUpTo bytes rest) :
    EncodedUpTo (byte :: bytes) rest := by
  obtain ⟨front, isFront, rfl⟩ := tail
  have single : Encoded [byte] := encoded_of_small (by simpa using small)
  exact ⟨byte :: front, single.append isFront, rfl⟩

theorem encoded (whole : EncodedUpTo bytes []) : Encoded bytes := by
  obtain ⟨front, isFront, rfl⟩ := whole
  rw [List.append_nil]
  exact isFront

end EncodedUpTo

end Uplink.Text
