/-
Module: Uplink.Proofs.Json.Weight
Purpose: A JSON text that denotes a text is longer than the text it denotes.
Main exports: RawText.weight, Token.scanOnto_weight, Json.length_of_parse_text
-/
import Mathlib.Data.List.Basic
import Uplink.Json.Reader
import Uplink.Proofs.Json.Tree
import Uplink.Proofs.Text.Utf8

namespace Uplink

open Text

namespace RawText

/-! ### Raw texts -/

/-- A bound on the bytes that a raw text stands for.  A code unit weighs as much as the longest character,
and less than the six bytes it is written with. -/
def weight : RawText → Nat
  | [] => 0
  | .byte _ :: rest => weight rest + 1
  | .unit _ :: rest => weight rest + 4

theorem weight_append (first second : RawText) :
    weight (first ++ second) = weight first + weight second := by
  induction first with
  | nil => exact (Nat.zero_add _).symm
  | cons piece rest ih =>
      cases piece <;> simp only [List.cons_append, weight, ih] <;> omega

theorem weight_reverse (raw : RawText) : weight raw.reverse = weight raw := by
  induction raw with
  | nil => rfl
  | cons piece rest ih =>
      cases piece <;> simp only [List.reverse_cons, weight_append, weight, ih, Nat.zero_add]

theorem length_utf8Char_le (character : Char) : (utf8Char character).length ≤ 4 := by
  simp only [utf8Char]
  split
  · simp
  · split
    · simp
    · split <;> simp

/-- A raw text stands for no more bytes than it weighs. -/
theorem length_bytesOnto {done bytes : List UInt8} {raw : RawText}
    (denoted : bytesOnto done raw = some bytes) : bytes.length ≤ done.length + weight raw := by
  fun_induction bytesOnto done raw with
  | case1 done =>
      cases denoted
      simp only [List.length_reverse, weight, Nat.add_zero, Nat.le_refl]
  | case2 done value rest ih =>
      have bound := ih denoted
      simp only [List.length_cons, weight] at bound ⊢
      omega
  | case3 done code rest scalar ih =>
      have bound := ih denoted
      have four := length_utf8Char_le (Char.ofNat code)
      simp only [List.length_append, List.length_reverse, weight] at bound ⊢
      omega
  | case5 done code notScalar notLow low rest isLow character ih =>
      have bound := ih denoted
      have four := length_utf8Char_le character
      simp only [List.length_append, List.length_reverse, weight] at bound ⊢
      omega
  | _ => cases denoted

end RawText

namespace Token

/-! ### Tokens -/

/-- A bound from below on the bytes that a token is scanned from. -/
def weight : Token → Nat
  | .text raw => raw.weight + 2
  | _ => 1

/-- The weight of some tokens. -/
def weights : List Token → Nat
  | [] => 0
  | token :: rest => token.weight + weights rest

theorem weights_append (first second : List Token) :
    weights (first ++ second) = weights first + weights second := by
  induction first with
  | nil => exact (Nat.zero_add _).symm
  | cons token rest ih => simp only [List.cons_append, weights, ih, Nat.add_assoc]

theorem weights_reverse (tokens : List Token) : weights tokens.reverse = weights tokens := by
  induction tokens with
  | nil => rfl
  | cons token rest ih =>
      simp only [List.reverse_cons, weights_append, weights, ih]
      omega

/-- The inside of a quoted text and its closing quote are no shorter than what was found. -/
theorem textBody_weight {done raw : RawText} {bytes rest : List UInt8}
    (scanned : textBody done bytes = some (raw, rest)) :
    raw.weight + rest.length + 1 ≤ RawText.weight done + bytes.length := by
  fun_induction textBody done bytes with
  | case2 done tail =>
      cases scanned
      rw [RawText.weight_reverse, List.length_cons]
      omega
  | case3 done first second third fourth tail code found ih =>
      have bound := ih scanned
      simp only [List.length_cons, RawText.weight] at bound ⊢
      omega
  | case5 done letter tail _ byte found ih =>
      have bound := ih scanned
      simp only [List.length_cons, RawText.weight] at bound ⊢
      omega
  | case8 done byte tail _ _ _ _ ih =>
      have bound := ih scanned
      simp only [List.length_cons, RawText.weight] at bound ⊢
      omega
  | _ => cases scanned

theorem weight_word {letter : UInt8} {word : List UInt8} {token : Token}
    (isWord : word? letter = some (word, token)) : token.weight = 1 := by
  unfold word? at isWord
  split at isWord
  · cases isWord
    rfl
  · split at isWord
    · cases isWord
      rfl
    · split at isWord
      · cases isWord
        rfl
      · cases isWord

/-- A token is scanned from no fewer bytes than it weighs. -/
theorem lexeme?_weight {token : Token} {bytes rest : List UInt8}
    (scanned : lexeme? bytes = some (token, rest)) : token.weight + rest.length ≤ bytes.length := by
  have shorter := lexeme?_length scanned
  unfold lexeme? at scanned
  split at scanned
  · cases scanned
  · rename_i byte tail
    split at scanned
    · simp only [Option.map_eq_some_iff, Prod.exists, Prod.mk.injEq] at scanned
      obtain ⟨raw, remaining, found, rfl, rfl⟩ := scanned
      have bound := textBody_weight found
      simp only [weight, RawText.weight, List.length_cons] at bound ⊢
      omega
    · have single : token.weight = 1 := by
        split at scanned
        · simp only [Option.map_eq_some_iff, Prod.exists, Prod.mk.injEq] at scanned
          obtain ⟨literal, remaining, found, rfl, rfl⟩ := scanned
          rfl
        · split at scanned
          · simp only [Option.map_eq_some_iff, Prod.exists, Prod.mk.injEq] at scanned
            obtain ⟨literal, remaining, found, rfl, rfl⟩ := scanned
            rfl
          · split at scanned
            · rename_i word _ isWord
              simp only [Option.map_eq_some_iff, Prod.mk.injEq] at scanned
              obtain ⟨remaining, -, rfl, -⟩ := scanned
              exact weight_word isWord
            · cases scanned
      omega

theorem weight_punctuation {byte : UInt8} {token : Token} (mark : punctuation? byte = some token) :
    token.weight = 1 := by
  cases token with
  | text raw =>
      simp only [punctuation?] at mark
      repeat' split at mark
      all_goals cases mark
  | _ => rfl

/-- Some tokens are scanned from no fewer bytes than they weigh. -/
theorem scanOnto_weight {done tokens : List Token} {bytes : List UInt8}
    (scanned : scanOnto done bytes = some tokens) : weights tokens ≤ weights done + bytes.length := by
  fun_induction scanOnto done bytes with
  | case1 done =>
      cases scanned
      exact Nat.le_of_eq (weights_reverse done)
  | case2 done byte rest blank ih =>
      have bound := ih scanned
      rw [List.length_cons]
      omega
  | case3 done byte rest notBlank token mark ih =>
      have bound := ih scanned
      simp only [weights, List.length_cons, weight_punctuation mark] at bound ⊢
      omega
  | case4 done byte rest notBlank noMark token remaining found ih =>
      have bound := ih scanned
      have taken := lexeme?_weight found
      simp only [weights] at bound ⊢
      omega
  | case5 => cases scanned

end Token

namespace JsonTree

/-- Only the tree of a text has a text as its value. -/
theorem value?_text {tree : JsonTree} {limit : Nat} {text : String}
    (read : tree.value? limit = some (.text text)) : ∃ raw, tree = .text raw ∧ raw.decode? = some text := by
  match tree, limit with
  | .text raw, _ =>
      obtain ⟨found, decoded, same⟩ := Option.map_eq_some_iff.1 read
      cases same
      exact ⟨raw, rfl, decoded⟩
  | .null, _ => cases read
  | .boolean _, _ => cases read
  | .number _, _ =>
      obtain ⟨_, -, same⟩ := Option.map_eq_some_iff.1 read
      cases same
  | .array _, 0 => cases read
  | .object _, 0 => cases read
  | .array _, _ + 1 =>
      obtain ⟨_, -, same⟩ := Option.map_eq_some_iff.1 read
      cases same
  | .object _, _ + 1 =>
      obtain ⟨_, -, same⟩ := Option.map_eq_some_iff.1 read
      cases same

end JsonTree

/-- A JSON text that denotes a text is at least two bytes longer than that text. -/
theorem Json.length_of_parse_text {bytes : List UInt8} {text : String}
    (read : Json.parse bytes = some (.text text)) : (bytesOfText text).length + 2 ≤ bytes.length := by
  simp only [Json.parse, Json.parseWithin, JsonTree.read?, Option.bind_eq_bind,
    Option.bind_eq_some_iff] at read
  obtain ⟨tree, ⟨tokens, scanned, formed⟩, valued⟩ := read
  obtain ⟨raw, rfl, decoded⟩ := JsonTree.value?_text valued
  rw [JsonTree.ofTokens?_text formed] at scanned
  simp only [RawText.decode?, Option.bind_eq_bind, Option.bind_eq_some_iff,
    textOfBytes?_eq_some_iff] at decoded
  obtain ⟨denoted, found, rfl⟩ := decoded
  have long : raw.weight + 2 ≤ bytes.length := by
    have bound := Token.scanOnto_weight scanned
    simp only [Token.weights, Token.weight] at bound
    omega
  have short := RawText.length_bytesOnto found
  rw [List.length_nil] at short
  omega

end Uplink
