/-
Module: Uplink.Proofs.Payload.RoundTrip
Purpose: Which values and which typed texts come back from the body that the JSON format writes for them.
Main exports: Format.json_decode_encode, Format.json_returns_iff, PayloadRegistry.text_returns_iff
-/
import Uplink.Payload.Registry
import Uplink.Proofs.Json.RoundTrip
import Uplink.Proofs.Json.Weight

namespace Uplink

open Text

/-- Nothing is written with no bytes, because every tree has a token. -/
theorem Json.bytes_ne_nil {value : Json} (integral : value.Integral) : value.bytes ≠ [] := by
  intro isEmpty
  have scanned := Json.scan_bytes integral
  obtain ⟨first, others, starts, -⟩ := JsonTree.tokens_start value.tree
  rw [isEmpty, starts, Token.scan, Token.scanOnto] at scanned
  cases scanned

namespace Format

/-! ### Values -/

/-- The body of a value that is neither null nor a text is the value's JSON text. -/
theorem jsonEncode_of_ne {value : Json} (notNull : value ≠ .null)
    (notText : ∀ text, value ≠ .text text) : jsonEncode value = value.bytes := by
  unfold jsonEncode
  split
  · exact absurd rfl notNull
  · exact absurd rfl (notText _)
  · rfl

/-- The JSON text of a value within the limit is decoded to the value, and of a deeper one to a text. -/
theorem jsonDecode_bytes {value : Json} (ordered : value.Ordered) (integral : value.Integral) :
    jsonDecode value.bytes
      = .ok (if value.depth ≤ Json.depthLimit then value else .text value.render) := by
  have notEmpty : ¬ value.bytes.isEmpty = true := fun isEmpty =>
    Json.bytes_ne_nil integral (List.isEmpty_iff.1 isEmpty)
  have asText : textOfBytes? value.bytes = some value.render :=
    textOfBytes?_eq_some_iff.2 (Json.bytesOfText_render value)
  rw [jsonDecode, if_neg notEmpty, Json.parse, Json.parseWithin_bytes ordered integral]
  by_cases shallow : value.depth ≤ Json.depthLimit
  · rw [if_pos shallow, if_pos shallow]
  · simp only [if_neg shallow, asText]

/-- A value without reals that is not a text comes back from its body as long as it nests no deeper than
the reader's limit.  A deeper one is not refused: it comes back as the text that was written for it. -/
theorem json_decode_encode {value : Json} (ordered : value.Ordered) (integral : value.Integral)
    (notText : ∀ text, value ≠ .text text) {body : List UInt8} (encoded : json.encode value = .ok body) :
    json.decode body = .ok (if value.depth ≤ Json.depthLimit then value else .text value.render)
      ∧ (json.decode body = .ok value ↔ value.depth ≤ Json.depthLimit) := by
  have decoded : json.decode body
      = .ok (if value.depth ≤ Json.depthLimit then value else .text value.render) := by
    cases encoded
    by_cases isNull : value = .null
    · rw [isNull]
      rfl
    · rw [jsonEncode_of_ne isNull notText]
      exact jsonDecode_bytes ordered integral
  refine ⟨decoded, ?_⟩
  rw [decoded]
  constructor
  · intro same
    by_contra deep
    rw [if_neg deep] at same
    exact notText value.render (Except.ok.inj same).symm
  · intro shallow
    rw [if_pos shallow]

/-- An array in an array and so on, `more` of them around an empty one. -/
def nestedArrays : Nat → Json
  | 0 => .array []
  | more + 1 => .array [nestedArrays more]

theorem depth_nestedArrays (more : Nat) : (nestedArrays more).depth = more + 1 := by
  induction more with
  | zero => rfl
  | succ more ih => simp only [nestedArrays, Json.depth, Json.depthOfItems, ih, Nat.max_zero]

theorem every_nestedArrays (ofNumber : Number → Prop) (ofKeys : List String → Prop) (more : Nat) :
    (nestedArrays more).Every ofNumber ofKeys := by
  induction more with
  | zero => trivial
  | succ more ih => exact ⟨ih, trivial⟩

/-- 128 arrays in one another come back as the text of their brackets. -/
theorem json_decode_encode_deep :
    json.decode (jsonEncode (nestedArrays 127)) = .ok (.text (nestedArrays 127).render) := by
  have ordered : (nestedArrays 127).Ordered := every_nestedArrays _ _ 127
  have integral : (nestedArrays 127).Integral := every_nestedArrays _ _ 127
  have decoded := (json_decode_encode ordered integral (fun _ => nofun) rfl).1
  rw [if_neg (by rw [depth_nestedArrays]; decide)] at decoded
  exact decoded

/-! ### All values within the limit -/

/-- The body of a text is read as that text exactly if it has a byte and is not itself a JSON text. -/
theorem jsonDecode_bytesOfText_iff (text : String) :
    jsonDecode (bytesOfText text) = .ok (.text text)
      ↔ text ≠ "" ∧ Json.parse (bytesOfText text) = none := by
  by_cases isEmpty : text = ""
  · subst isEmpty
    exact ⟨nofun, fun returns => absurd rfl returns.1⟩
  have notEmpty : ¬ (bytesOfText text).isEmpty = true := by
    rw [List.isEmpty_iff]
    intro noBytes
    have read := textOfBytes?_bytesOfText text
    rw [noBytes] at read
    exact isEmpty (Option.some.inj read).symm
  rw [jsonDecode, if_neg notEmpty]
  cases read : Json.parse (bytesOfText text) with
  | none =>
      simp only [textOfBytes?_bytesOfText]
      exact ⟨fun _ => ⟨isEmpty, trivial⟩, fun _ => trivial⟩
  | some value =>
      refine ⟨fun same => ?_, fun returns => nomatch returns.2⟩
      -- The text would denote itself, but what a text denotes is shorter.
      have same : value = .text text := Except.ok.inj same
      rw [same] at read
      have long := Json.length_of_parse_text read
      omega

/-- The values without reals that come back from their body, as far as the reader's limit lets them nest:
all but the empty text and the texts that are JSON texts themselves. -/
theorem json_returns_iff {value : Json} (ordered : value.Ordered) (integral : value.Integral)
    (shallow : value.depth ≤ Json.depthLimit) :
    ∃ body, json.encode value = .ok body
      ∧ (json.decode body = .ok value
          ↔ ¬ ∃ text, value = .text text ∧ (text = "" ∨ (Json.parse (bytesOfText text)).isSome)) := by
  refine ⟨jsonEncode value, rfl, ?_⟩
  by_cases isText : ∃ text, value = .text text
  · obtain ⟨text, rfl⟩ := isText
    refine (jsonDecode_bytesOfText_iff text).trans ⟨?_, ?_⟩
    · rintro ⟨notEmpty, unread⟩ ⟨found, same, isEmpty | read⟩
      · cases same
        exact notEmpty isEmpty
      · cases same
        rw [unread] at read
        cases read
    · intro other
      refine ⟨fun isEmpty => other ⟨text, rfl, .inl isEmpty⟩, ?_⟩
      exact Option.not_isSome_iff_eq_none.1 fun read => other ⟨text, rfl, .inr read⟩
  · refine iff_of_true ?_ fun ⟨text, same, _⟩ => isText ⟨text, same⟩
    change jsonDecode (jsonEncode value) = .ok value
    by_cases isNull : value = .null
    · rw [isNull]
      rfl
    · rw [jsonEncode_of_ne isNull fun text same => isText ⟨text, same⟩,
        jsonDecode_bytes ordered integral, if_pos shallow]

/-- 127 arrays in one another come back; the empty text does not, nor does the text of a number. -/
theorem json_returns_deep_not_empty :
    json.decode (jsonEncode (nestedArrays 126)) = .ok (nestedArrays 126)
      ∧ json.decode (jsonEncode (.text "")) ≠ .ok (.text "")
      ∧ json.decode (jsonEncode (.text "7")) ≠ .ok (.text "7") := by
  refine ⟨?_, ?_, ?_⟩
  · have ordered : (nestedArrays 126).Ordered := every_nestedArrays _ _ 126
    have integral : (nestedArrays 126).Integral := every_nestedArrays _ _ 126
    obtain ⟨body, encoded, returns⟩ :=
      json_returns_iff ordered integral (by rw [depth_nestedArrays]; decide)
    cases encoded
    refine returns.2 ?_
    rintro ⟨text, same, -⟩
    cases same
  · have ordered : (Json.text "").Ordered := trivial
    have integral : (Json.text "").Integral := trivial
    obtain ⟨body, encoded, returns⟩ := json_returns_iff ordered integral (Nat.zero_le _)
    cases encoded
    exact fun same => returns.1 same ⟨"", rfl, .inl rfl⟩
  · have ordered : (Json.text "7").Ordered := trivial
    have integral : (Json.text "7").Integral := trivial
    obtain ⟨body, encoded, returns⟩ := json_returns_iff ordered integral (Nat.zero_le _)
    cases encoded
    exact fun same => returns.1 same ⟨"7", rfl, .inr (by decide +kernel)⟩

end Format

namespace PayloadRegistry

/-! ### Typed texts -/

theorem standard_get : standard.get Format.jsonTag = .ok .json := rfl

/-- A body that is the JSON text of a text is read as the text it denotes. -/
theorem decodeAs_denoting {body : List UInt8} {denoted : String}
    (read : Json.parse body = some (.text denoted)) :
    standard.decodeAs Format.jsonTag .text body = .ok (.text denoted) := by
  have notEmpty : ¬ body.isEmpty = true := by
    intro isEmpty
    have long := Json.length_of_parse_text read
    rw [List.isEmpty_iff.1 isEmpty, List.length_nil] at long
    omega
  have decoded : Format.json.decode body = .ok (.text denoted) := by
    simp only [Format.json, Format.jsonDecode]
    rw [if_neg notEmpty, read]
  simp only [decodeAs, standard_get, bind, Except.bind, decoded, Target.read?, Target.text?]

/-- The body of a text that denotes no other text is decoded to that text or to no text at all. -/
theorem json_decode_bytesOfText {text : String}
    (other : ∀ denoted, Json.parse (bytesOfText text) ≠ some (.text denoted)) :
    ∃ value, Format.json.decode (bytesOfText text) = .ok value
      ∧ (value = .text text ∨ ∀ found, value ≠ .text found) := by
  simp only [Format.json, Format.jsonDecode]
  split
  · exact ⟨.null, rfl, .inr fun _ => nofun⟩
  · split
    · rename_i value read
      refine ⟨value, rfl, .inr fun found isText => other found ?_⟩
      rw [read, isText]
    · rw [textOfBytes?_bytesOfText]
      exact ⟨.text text, rfl, .inl rfl⟩

/-- Every other text comes back, whatever else it may denote. -/
theorem decodeAs_bytesOfText {text : String}
    (other : ∀ denoted, Json.parse (bytesOfText text) ≠ some (.text denoted)) :
    standard.decodeAs Format.jsonTag .text (bytesOfText text) = .ok (.text text) := by
  obtain ⟨value, decoded, isText | notText⟩ := json_decode_bytesOfText other
  · simp only [decodeAs, standard_get, bind, Except.bind, decoded, isText, Target.read?, Target.text?]
  · simp only [decodeAs, standard_get, bind, Except.bind, decoded, Target.read?,
      textOfBytes?_bytesOfText, Option.bind_some, Target.text?]

/-- A text that is sent as a text always reaches a receiver of texts, directly or in a frame.  It arrives
as it was sent exactly if it is not itself the JSON text of a text, quotes and all; such a text arrives as
the text that it denotes. -/
theorem text_returns_iff (header : Header) (text : String) :
    ∃ body frame found,
      standard.encodeAs Format.jsonTag (.text text) = .ok body
      ∧ standard.decodeAs Format.jsonTag .text body = .ok (.text found)
      ∧ standard.toFrame header Format.jsonTag (.text text) = .ok frame
      ∧ standard.fromFrame .text frame = .ok (.text found)
      ∧ (found = text ↔ ∀ denoted, Json.parse (bytesOfText text) ≠ some (.text denoted))
      ∧ ∀ denoted, Json.parse (bytesOfText text) = some (.text denoted) → found = denoted := by
  refine ⟨bytesOfText text, Frame.make { header with bodyType := Format.jsonTag } (bytesOfText text), ?_⟩
  by_cases denotes : ∃ denoted, Json.parse (bytesOfText text) = some (.text denoted)
  · obtain ⟨denoted, read⟩ := denotes
    have decoded := decodeAs_denoting read
    -- What a text denotes is shorter than the text.
    have changed : denoted ≠ text := by
      intro same
      have long := Json.length_of_parse_text read
      rw [same] at long
      omega
    refine ⟨denoted, rfl, decoded, rfl, decoded, ?_, ?_⟩
    · exact ⟨fun same => absurd same changed, fun other => absurd read (other denoted)⟩
    · intro found readFound
      exact Json.text.inj (Option.some.inj (read.symm.trans readFound))
  · have other : ∀ denoted, Json.parse (bytesOfText text) ≠ some (.text denoted) :=
      fun denoted read => denotes ⟨denoted, read⟩
    have decoded := decodeAs_bytesOfText other
    exact ⟨text, rfl, decoded, rfl, decoded, ⟨fun _ => other, fun _ => rfl⟩,
      fun denoted read => absurd read (other denoted)⟩

/-- A text in quotes, with its escapes, is such a text: the text inside arrives. -/
theorem decodeAs_render (text : String) :
    standard.decodeAs Format.jsonTag .text (bytesOfText (Json.text text).render) = .ok (.text text) := by
  have ordered : (Json.text text).Ordered := trivial
  have integral : (Json.text text).Integral := trivial
  apply decodeAs_denoting
  rw [Json.bytesOfText_render, Json.parse, Json.parseWithin_bytes ordered integral]
  exact if_pos (Nat.zero_le _)

end PayloadRegistry

end Uplink
