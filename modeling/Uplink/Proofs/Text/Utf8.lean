/-
Module: Uplink.Proofs.Text.Utf8
Purpose: The UTF-8 decoder accepts exactly what the encoder writes, so every text has one byte form.
Main exports: Spells, utf8Decode_eq_some_iff, textOfBytes?_eq_some_iff, textOfBytes?_bytesOfText, Encoded
-/
import Uplink.Text.Utf8

namespace Uplink.Text

/-! ### Decoding what was encoded -/

/-- The payload of a continuation byte is read back. -/
theorem continuation?_ofNat {low : Nat} (small : low < 64) :
    continuation? (UInt8.ofNat (0x80 + low)) = some low := by
  have value : (UInt8.ofNat (0x80 + low)).toNat = 0x80 + low :=
    UInt8.toNat_ofNat_of_lt' (by simp only [UInt8.size]; omega)
  simp only [continuation?, value]
  rw [if_pos (by omega), Nat.add_sub_cancel_left]

/-- The scalar value with the code of a character is the character. -/
theorem scalar?_toNat {least : Nat} {character : Char} (enough : least ≤ character.toNat) :
    scalar? least character.toNat = some character := by
  have valid : character.toNat < 0xD800 ∨ 0xDFFF < character.toNat ∧ character.toNat < 0x110000 :=
    character.valid
  simp only [scalar?]
  rw [if_pos ⟨enough, valid⟩, Char.ofNat_toNat]

/-- Stated for any option, so that no scalar value is computed where the lemma is used. -/
theorem bind_of_eq_some {α β : Type} {found : Option α} {value : α} (isFound : found = some value)
    (next : α → Option β) : (found >>= next) = next value := by
  rw [isFound]
  rfl

/-- Which bytes spell a character: the first one says how many belong to it, and each of the others carries
six bits of its code. -/
inductive Spells : List UInt8 → Char → Prop where
  | one {first : UInt8} (one : first.toNat < 0x80) : Spells [first] (Char.ofNat first.toNat)
  | two {first second : UInt8} {low : Nat} {character : Char} (least : 0xC0 ≤ first.toNat)
      (two : first.toNat < 0xE0) (isLow : continuation? second = some low)
      (isScalar : scalar? 0x80 ((first.toNat - 0xC0) * 64 + low) = some character) :
      Spells [first, second] character
  | three {first second third : UInt8} {middle low : Nat} {character : Char} (least : 0xE0 ≤ first.toNat)
      (three : first.toNat < 0xF0) (isMiddle : continuation? second = some middle)
      (isLow : continuation? third = some low)
      (isScalar : scalar? 0x800 ((first.toNat - 0xE0) * 4096 + middle * 64 + low) = some character) :
      Spells [first, second, third] character
  | four {first second third fourth : UInt8} {high middle low : Nat} {character : Char}
      (least : 0xF0 ≤ first.toNat) (four : first.toNat < 0xF8) (isHigh : continuation? second = some high)
      (isMiddle : continuation? third = some middle) (isLow : continuation? fourth = some low)
      (isScalar : scalar? 0x10000 ((first.toNat - 0xF0) * 262144 + high * 4096 + middle * 64 + low)
        = some character) : Spells [first, second, third, fourth] character

/-- The bytes that spell a character are read as that character, whatever stands behind them. -/
theorem utf8DecodeOnto_of_spells {bytes : List UInt8} {character : Char} (spells : Spells bytes character)
    (done : List Char) (rest : List UInt8) :
    utf8DecodeOnto done (bytes ++ rest) = utf8DecodeOnto (character :: done) rest := by
  cases spells with
  | one one =>
      rw [List.singleton_append, utf8DecodeOnto.eq_def]
      exact if_pos one
  | two least two isLow isScalar =>
      simp only [List.cons_append, List.nil_append]
      rw [utf8DecodeOnto.eq_def]
      dsimp only
      rw [if_neg (by omega), if_neg (by omega), if_pos two, bind_of_eq_some isLow, bind_of_eq_some isScalar]
  | three least three isMiddle isLow isScalar =>
      simp only [List.cons_append, List.nil_append]
      rw [utf8DecodeOnto.eq_def]
      dsimp only
      rw [if_neg (by omega), if_neg (by omega), if_neg (by omega), if_pos three,
        bind_of_eq_some isMiddle, bind_of_eq_some isLow, bind_of_eq_some isScalar]
  | four least four isHigh isMiddle isLow isScalar =>
      simp only [List.cons_append, List.nil_append]
      rw [utf8DecodeOnto.eq_def]
      dsimp only
      rw [if_neg (by omega), if_neg (by omega), if_neg (by omega), if_neg (by omega), if_pos four,
        bind_of_eq_some isHigh, bind_of_eq_some isMiddle, bind_of_eq_some isLow, bind_of_eq_some isScalar]

/-- The encoding of a character spells it. -/
theorem spells_utf8Char (character : Char) : Spells (utf8Char character) character := by
  have valid : character.toNat < 0xD800 ∨ 0xDFFF < character.toNat ∧ character.toNat < 0x110000 :=
    character.valid
  have value : ∀ {code : Nat}, code < 256 → (UInt8.ofNat code).toNat = code :=
    fun small => UInt8.toNat_ofNat_of_lt' small
  simp only [utf8Char]
  split
  · rename_i one
    have first := value (Nat.lt_trans one (by decide))
    have spells := Spells.one (by rw [first]; exact one)
    rw [first, Char.ofNat_toNat] at spells
    exact spells
  · rename_i notOne
    split
    · rename_i two
      have first : (UInt8.ofNat (0xC0 + character.toNat / 64)).toNat = 0xC0 + character.toNat / 64 :=
        value (by omega)
      apply Spells.two (by omega) (by omega) (continuation?_ofNat (by omega))
      rw [first, show (0xC0 + character.toNat / 64 - 0xC0) * 64 + character.toNat % 64
        = character.toNat by omega]
      exact scalar?_toNat (Nat.le_of_not_lt notOne)
    · rename_i notTwo
      split
      · rename_i three
        have first : (UInt8.ofNat (0xE0 + character.toNat / 4096)).toNat
            = 0xE0 + character.toNat / 4096 := value (by omega)
        apply Spells.three (by omega) (by omega) (continuation?_ofNat (by omega))
          (continuation?_ofNat (by omega))
        rw [first, show (0xE0 + character.toNat / 4096 - 0xE0) * 4096
          + character.toNat / 64 % 64 * 64 + character.toNat % 64 = character.toNat by omega]
        exact scalar?_toNat (Nat.le_of_not_lt notTwo)
      · rename_i notThree
        have first : (UInt8.ofNat (0xF0 + character.toNat / 262144)).toNat
            = 0xF0 + character.toNat / 262144 := value (by omega)
        apply Spells.four (by omega) (by omega) (continuation?_ofNat (by omega))
          (continuation?_ofNat (by omega)) (continuation?_ofNat (by omega))
        rw [first, show (0xF0 + character.toNat / 262144 - 0xF0) * 262144
          + character.toNat / 4096 % 64 * 4096 + character.toNat / 64 % 64 * 64
          + character.toNat % 64 = character.toNat by omega]
        exact scalar?_toNat (Nat.le_of_not_lt notThree)

theorem utf8DecodeOnto_utf8Encode (done characters : List Char) :
    utf8DecodeOnto done (utf8Encode characters) = some (done.reverse ++ characters) := by
  induction characters generalizing done with
  | nil =>
      rw [List.append_nil]
      rfl
  | cons character rest ih =>
      rw [utf8Encode] at ih
      rw [utf8Encode, List.flatMap_cons, utf8DecodeOnto_of_spells (spells_utf8Char character), ih,
        List.reverse_cons, List.append_assoc, List.singleton_append]

/-! ### Encoding what was decoded -/

theorem toNat_ofNat {code : Nat} (isValid : code.isValidChar) : (Char.ofNat code).toNat = code := by
  rw [Char.ofNat, dif_pos isValid]
  rfl

/-- A byte with a payload is a continuation byte. -/
theorem continuation?_inv {byte : UInt8} {low : Nat} (isLow : continuation? byte = some low) :
    low < 64 ∧ byte = UInt8.ofNat (0x80 + low) := by
  simp only [continuation?] at isLow
  split at isLow
  · rename_i within
    have same : byte.toNat - 0x80 = low := Option.some.inj isLow
    refine ⟨by omega, ?_⟩
    rw [← same, Nat.add_sub_cancel' within.1, UInt8.ofNat_toNat]
  · cases isLow

/-- A scalar value has its code, which is not below the least one. -/
theorem scalar?_inv {least code : Nat} {character : Char}
    (isScalar : scalar? least code = some character) : least ≤ code ∧ character.toNat = code := by
  simp only [scalar?] at isScalar
  split at isScalar
  · rename_i valid
    have same : Char.ofNat code = character := Option.some.inj isScalar
    have isValid : code.isValidChar := by
      simp only [Nat.isValidChar]
      omega
    rw [← same]
    exact ⟨valid.1, toNat_ofNat isValid⟩
  · cases isScalar

/-- The bytes of the characters that come behind those already read are the ones given. -/
def Reads (done : List Char) (bytes : List UInt8) (decoded : List Char) : Prop :=
  ∃ characters, decoded = done.reverse ++ characters ∧ utf8Encode characters = bytes

/-- One more character has been read. -/
theorem Reads.cons {done decoded : List Char} {character : Char} {rest bytes : List UInt8}
    (reads : Reads (character :: done) rest decoded) (isBytes : bytes = utf8Char character ++ rest) :
    Reads done bytes decoded := by
  obtain ⟨characters, same, encoded⟩ := reads
  refine ⟨character :: characters, ?_, ?_⟩
  · rw [same, List.reverse_cons, List.append_assoc, List.singleton_append]
  · rw [isBytes, ← encoded, utf8Encode, List.flatMap_cons, utf8Encode]

/-- What is decoded has the bytes that were read. -/
theorem reads_of_utf8DecodeOnto {done decoded : List Char} {bytes : List UInt8}
    (isDecoded : utf8DecodeOnto done bytes = some decoded) : Reads done bytes decoded := by
  fun_induction utf8DecodeOnto done bytes with
  | case1 done =>
      refine ⟨[], ?_, rfl⟩
      rw [List.append_nil]
      exact (Option.some.inj isDecoded).symm
  | case2 done first rest one ih =>
      apply (ih isDecoded).cons
      have code : (Char.ofNat first.toNat).toNat = first.toNat :=
        toNat_ofNat (Or.inl (Nat.lt_trans one (by decide)))
      simp only [utf8Char, code]
      rw [if_pos one, UInt8.ofNat_toNat]
      rfl
  | case4 done first notOne notStray two second rest ih =>
      simp only [Option.bind_eq_bind, Option.bind_eq_some_iff] at isDecoded
      obtain ⟨low, isLow, character, isScalar, decodes⟩ := isDecoded
      obtain ⟨small, isSecond⟩ := continuation?_inv isLow
      obtain ⟨least, code⟩ := scalar?_inv isScalar
      apply (ih character decodes).cons
      simp only [utf8Char, code, isSecond]
      rw [if_neg (by omega), if_pos (by omega)]
      simp only [List.cons_append, List.nil_append, List.cons.injEq, and_true, ← UInt8.toNat_inj,
        UInt8.toNat_ofNat']
      refine ⟨?_, ?_⟩ <;> omega
  | case6 done first notOne notStray notTwo three second third rest ih =>
      simp only [Option.bind_eq_bind, Option.bind_eq_some_iff] at isDecoded
      obtain ⟨middle, isMiddle, low, isLow, character, isScalar, decodes⟩ := isDecoded
      obtain ⟨middleSmall, isSecond⟩ := continuation?_inv isMiddle
      obtain ⟨lowSmall, isThird⟩ := continuation?_inv isLow
      obtain ⟨least, code⟩ := scalar?_inv isScalar
      apply (ih character decodes).cons
      simp only [utf8Char, code, isSecond, isThird]
      rw [if_neg (by omega), if_neg (by omega), if_pos (by omega)]
      simp only [List.cons_append, List.nil_append, List.cons.injEq, and_true, ← UInt8.toNat_inj,
        UInt8.toNat_ofNat']
      refine ⟨?_, ?_, ?_⟩ <;> omega
  | case8 done first notOne notStray notTwo notThree four second third fourth rest ih =>
      simp only [Option.bind_eq_bind, Option.bind_eq_some_iff] at isDecoded
      obtain ⟨high, isHigh, middle, isMiddle, low, isLow, character, isScalar, decodes⟩ := isDecoded
      obtain ⟨highSmall, isSecond⟩ := continuation?_inv isHigh
      obtain ⟨middleSmall, isThird⟩ := continuation?_inv isMiddle
      obtain ⟨lowSmall, isFourth⟩ := continuation?_inv isLow
      obtain ⟨least, code⟩ := scalar?_inv isScalar
      apply (ih character decodes).cons
      simp only [utf8Char, code, isSecond, isThird, isFourth]
      rw [if_neg (by omega), if_neg (by omega), if_neg (by omega)]
      simp only [List.cons_append, List.nil_append, List.cons.injEq, and_true, ← UInt8.toNat_inj,
        UInt8.toNat_ofNat']
      refine ⟨?_, ?_, ?_, ?_⟩ <;> omega
  | _ => cases isDecoded

/-! ### Texts -/

/-- A byte list decodes to characters exactly if it is their encoding. -/
theorem utf8Decode_eq_some_iff {bytes : List UInt8} {characters : List Char} :
    utf8Decode bytes = some characters ↔ utf8Encode characters = bytes := by
  constructor
  · intro isDecoded
    obtain ⟨read, same, encoded⟩ := reads_of_utf8DecodeOnto isDecoded
    rw [same, List.reverse_nil, List.nil_append]
    exact encoded
  · intro encoded
    rw [← encoded, utf8Decode, utf8DecodeOnto_utf8Encode, List.reverse_nil, List.nil_append]

/-- A byte list is a text exactly if it is the text's encoding. -/
theorem textOfBytes?_eq_some_iff {bytes : List UInt8} {text : String} :
    textOfBytes? bytes = some text ↔ bytesOfText text = bytes := by
  simp only [textOfBytes?, Option.map_eq_some_iff, utf8Decode_eq_some_iff, bytesOfText]
  constructor
  · intro ⟨characters, encoded, same⟩
    rw [← same, String.toList_ofList]
    exact encoded
  · intro encoded
    exact ⟨text.toList, encoded, String.ofList_toList⟩

/-- The bytes of a text give the text back. -/
theorem textOfBytes?_bytesOfText (text : String) : textOfBytes? (bytesOfText text) = some text :=
  textOfBytes?_eq_some_iff.2 rfl

/-! ### Encoded bytes -/

/-- The bytes are the encoding of some text. -/
def Encoded (bytes : List UInt8) : Prop :=
  ∃ text, bytesOfText text = bytes

theorem Encoded.append {first second : List UInt8} (isFirst : Encoded first)
    (isSecond : Encoded second) : Encoded (first ++ second) := by
  obtain ⟨front, rfl⟩ := isFirst
  obtain ⟨back, rfl⟩ := isSecond
  exact ⟨front ++ back, by simp only [bytesOfText, String.toList_append, utf8Encode, List.flatMap_append]⟩

theorem encoded_utf8Char (character : Char) : Encoded (utf8Char character) :=
  ⟨String.ofList [character], by
    simp only [bytesOfText, String.toList_ofList, utf8Encode, List.flatMap_singleton]⟩

/-- Bytes below 0x80 are a text, each of them a character. -/
theorem encoded_ascii {bytes : List UInt8}
    (small : bytes.all (fun byte => decide (byte.toNat < 0x80)) = true) : Encoded bytes := by
  induction bytes with
  | nil => exact ⟨"", rfl⟩
  | cons byte rest ih =>
      simp only [List.all_cons, Bool.and_eq_true, decide_eq_true_eq] at small
      obtain ⟨first, remaining⟩ := small
      have code : (Char.ofNat byte.toNat).toNat = byte.toNat := toNat_ofNat (.inl (by omega))
      have single : utf8Char (Char.ofNat byte.toNat) = [byte] := by
        rw [utf8Char, code, if_pos first, UInt8.ofNat_toNat]
      have head := encoded_utf8Char (Char.ofNat byte.toNat)
      rw [single] at head
      exact head.append (ih remaining)

theorem Encoded.flatMap {α : Type} {items : List α} {write : α → List UInt8}
    (encoded : ∀ item, Encoded (write item)) : Encoded (items.flatMap write) := by
  induction items with
  | nil => exact ⟨"", rfl⟩
  | cons item rest ih => exact (encoded item).append ih

end Uplink.Text
