/-
Module: Uplink.Proofs.Payload.Reading
Purpose: Which bodies are read: the JSON format reads exactly the bodies that are UTF-8, and a receiver of
  texts gets what a body decodes to or the body itself.
Main exports: Format.json_decode_iff, PayloadRegistry.decodeAs_text_iff, Format.WritesPlain,
  PayloadRegistry.json_reads_utf8, PayloadRegistry.texts_trustworthy_iff
-/
import Uplink.Proofs.Json.Encoding
import Uplink.Proofs.Payload.RoundTrip

namespace Uplink

open Text

namespace Format

/-- The JSON format decodes a body exactly if it is a text: what the grammar refuses is a text itself, and
the grammar accepts nothing else. -/
theorem json_decode_iff (body : List UInt8) : (∃ value, json.decode body = .ok value) ↔ Encoded body := by
  simp only [json, jsonDecode]
  split
  · rename_i isEmpty
    rw [List.isEmpty_iff] at isEmpty
    rw [isEmpty]
    exact ⟨fun _ => encoded_nil, fun _ => ⟨.null, rfl⟩⟩
  · split
    · rename_i value read
      exact ⟨fun _ => Json.encoded_of_parse read, fun _ => ⟨value, rfl⟩⟩
    · split
      · rename_i text isText
        exact ⟨fun _ => ⟨text, textOfBytes?_eq_some_iff.1 isText⟩, fun _ => ⟨.text text, rfl⟩⟩
      · rename_i noText
        constructor
        · rintro ⟨_, decoded⟩
          cases decoded
        · rintro ⟨text, isText⟩
          rw [textOfBytes?_eq_some_iff.2 isText] at noText
          cases noText

/-- The JSON text of a text is decoded to the text that it denotes. -/
theorem json_decode_of_quotes {body : List UInt8} {denoted : String} (quotes : Json.Quotes body denoted) :
    json.decode body = .ok (.text denoted) := by
  have read := Json.parse_eq_text_iff.2 quotes
  have notEmpty : ¬ body.isEmpty = true := by
    intro isEmpty
    have long := Json.length_of_parse_text read
    rw [List.isEmpty_iff.1 isEmpty, List.length_nil] at long
    omega
  simp only [json, jsonDecode]
  rw [if_neg notEmpty, read]

/-- The format writes a text as its bytes wherever it takes these bytes for something else. -/
def WritesPlain (format : Format) : Prop :=
  ∀ text value, format.decode (bytesOfText text) = .ok value → (∀ found, value ≠ .text found) →
    format.encode (.text text) = .ok (bytesOfText text)

/-- The JSON format writes every text as its bytes. -/
theorem writesPlain_json : json.WritesPlain := fun _ _ _ _ => rfl

end Format

namespace PayloadRegistry

variable {registry : PayloadRegistry} {tag : UInt8} {format : Format}

theorem get_of_find? (known : registry.find? tag = some format) : registry.get tag = .ok format := by
  simp only [get, known]

/-- What decodes to a text is read as that text. -/
theorem decodeAs_of_text (known : registry.find? tag = some format) {body : List UInt8} {text : String}
    (decoded : format.decode body = .ok (.text text)) :
    registry.decodeAs tag .text body = .ok (.text text) := by
  simp only [decodeAs, get_of_find? known, bind, Except.bind, decoded, Target.read?, Target.text?]

/-- What decodes to something else is read as the body itself, if the body is a text. -/
theorem decodeAs_of_other (known : registry.find? tag = some format) {body : List UInt8} {value : Json}
    (decoded : format.decode body = .ok value) (other : ∀ found, value ≠ .text found) :
    registry.decodeAs tag .text body
      = match textOfBytes? body with
        | some text => .ok (.text text)
        | none => .error (.decode tag) := by
  have noText : Target.text.read? value = none := by
    cases value with
    | text found => exact absurd rfl (other found)
    | _ => rfl
  simp only [decodeAs, get_of_find? known, bind, Except.bind, decoded, noText]
  cases textOfBytes? body <;> rfl

/-- A text is read from a body if the body decodes to it, or decodes to no text and is that text itself. -/
theorem decodeAs_text_iff (known : registry.find? tag = some format) (body : List UInt8) (text : String) :
    registry.decodeAs tag .text body = .ok (.text text)
      ↔ format.decode body = .ok (.text text)
        ∨ ∃ value, format.decode body = .ok value ∧ (∀ found, value ≠ .text found)
          ∧ bytesOfText text = body := by
  cases decoded : format.decode body with
  | error error =>
      have refused : registry.decodeAs tag .text body = .error error := by
        simp only [decodeAs, get_of_find? known, bind, Except.bind, decoded]
      rw [refused]
      simp only [reduceCtorEq, false_and, exists_const, or_self]
  | ok value =>
      by_cases isText : ∃ found, value = .text found
      · obtain ⟨found, rfl⟩ := isText
        rw [decodeAs_of_text known decoded]
        refine ⟨.inl, ?_⟩
        rintro (same | ⟨_, same, other, -⟩)
        · exact same
        · cases same
          exact absurd rfl (other found)
      · have other : ∀ found, value ≠ .text found := fun found same => isText ⟨found, same⟩
        rw [decodeAs_of_other known decoded other, ← textOfBytes?_eq_some_iff]
        constructor
        · intro same
          refine .inr ⟨value, rfl, other, ?_⟩
          split at same
          · rename_i found isBody
            cases same
            exact isBody
          · cases same
        · rintro (same | ⟨_, -, -, isBody⟩)
          · cases same
            exact absurd rfl (other text)
          · rw [isBody]

/-- What does not decode is not read as anything. -/
theorem exists_decode_of_decodeAs (known : registry.find? tag = some format) {target : Target}
    {body : List UInt8} {found : Json} (isRead : registry.decodeAs tag target body = .ok found) :
    ∃ value, format.decode body = .ok value := by
  simp only [decodeAs, get_of_find? known, bind, Except.bind] at isRead
  cases decoded : format.decode body with
  | error error =>
      rw [decoded] at isRead
      cases isRead
  | ok value => exact ⟨value, rfl⟩

/-- With the JSON format a body is decoded exactly if it is valid UTF-8, and a receiver of texts gets one from
exactly the same bodies: the text that a quoted text denotes, and the text of the body itself otherwise. -/
theorem json_reads_utf8 (known : registry.find? Format.jsonTag = some .json) (body : List UInt8) :
    ((∃ value, Format.json.decode body = .ok value) ↔ body.toByteArray.IsValidUTF8)
      ∧ ((∃ found, registry.decodeAs Format.jsonTag .text body = .ok found)
          ↔ body.toByteArray.IsValidUTF8)
      ∧ (∀ denoted, Json.Quotes body denoted →
          registry.decodeAs Format.jsonTag .text body = .ok (.text denoted))
      ∧ ∀ text : String, text.toByteArray = body.toByteArray → (∀ denoted, ¬ Json.Quotes body denoted) →
          registry.decodeAs Format.jsonTag .text body = .ok (.text text) := by
  have quoted : ∀ denoted, Json.Quotes body denoted →
      registry.decodeAs Format.jsonTag .text body = .ok (.text denoted) :=
    fun denoted quotes => decodeAs_of_text known (Format.json_decode_of_quotes quotes)
  have plain : ∀ text : String, text.toByteArray = body.toByteArray →
      (∀ denoted, ¬ Json.Quotes body denoted) →
      registry.decodeAs Format.jsonTag .text body = .ok (.text text) := by
    intro text isText unquoted
    obtain rfl := toByteArray_eq_iff.1 isText
    obtain ⟨value, decoded, same | other⟩ :=
      json_decode_bytesOfText fun denoted read => unquoted denoted (Json.parse_eq_text_iff.1 read)
    · exact (decodeAs_text_iff known _ text).2 (.inl (by rw [decoded, same]))
    · exact (decodeAs_text_iff known _ text).2 (.inr ⟨value, decoded, other, rfl⟩)
  refine ⟨(Format.json_decode_iff body).trans encoded_iff_isValidUTF8, ⟨?_, ?_⟩, quoted, plain⟩
  · rintro ⟨found, isRead⟩
    exact encoded_iff_isValidUTF8.1
      ((Format.json_decode_iff body).1 (exists_decode_of_decodeAs known isRead))
  · intro valid
    by_cases quotes : ∃ denoted, Json.Quotes body denoted
    · obtain ⟨denoted, quotes⟩ := quotes
      exact ⟨_, quoted denoted quotes⟩
    · exact ⟨_, plain (.ofByteArray _ valid) rfl fun denoted isQuoted => quotes ⟨denoted, isQuoted⟩⟩

/-- A line break in its escape is read as that text behind another format too, and a byte that begins no
character is not read inside quotes either. -/
theorem json_reads_escape_not_stray_byte :
    (standard.register (.masked 7 1)).registry.find? Format.jsonTag = some .json
      ∧ (standard.register (.masked 7 1)).registry.decodeAs Format.jsonTag .text [0x22, 0x5C, 0x6E, 0x22]
          = .ok (.text "\n")
      ∧ ¬ ∃ found, (standard.register (.masked 7 1)).registry.decodeAs Format.jsonTag .text
          [0x22, 0xFF, 0x22] = .ok found := by
  have known : (standard.register (.masked 7 1)).registry.find? Format.jsonTag = some .json := rfl
  refine ⟨known, ?_, ?_⟩
  · refine (json_reads_utf8 known _).2.2.1 "\n" ⟨[], [.byte 0x0A], [0x5C, 0x6E], [], rfl, nofun, nofun, ?_, rfl⟩
    exact .short rfl .nil
  · rw [(json_reads_utf8 known _).2.1, ← encoded_iff_isValidUTF8]
    rintro ⟨text, isText⟩
    have read := textOfBytes?_eq_some_iff.2 isText
    cases read

/-- A receiver of texts gets the text that a body decodes to, and the body itself if that is a text and decodes
to something else.  So whatever text is read was decoded or is written as that body, for all bodies of a format,
exactly if the format writes texts as their bytes wherever it takes these for something else; the JSON format
does. -/
theorem texts_trustworthy_iff (known : registry.find? tag = some format) :
    (∀ body text, registry.decodeAs tag .text body = .ok (.text text)
        ↔ format.decode body = .ok (.text text)
          ∨ ∃ value, format.decode body = .ok value ∧ (∀ found, value ≠ .text found)
            ∧ bytesOfText text = body)
      ∧ ((∀ body text, registry.decodeAs tag .text body = .ok (.text text) →
            format.decode body = .ok (.text text) ∨ format.encode (.text text) = .ok body)
          ↔ format.WritesPlain)
      ∧ Format.json.WritesPlain := by
  refine ⟨decodeAs_text_iff known, ⟨?_, ?_⟩, Format.writesPlain_json⟩
  · intro trustworthy text value decoded other
    have isRead := (decodeAs_text_iff known _ text).2 (.inr ⟨value, decoded, other, rfl⟩)
    refine (trustworthy _ text isRead).resolve_left fun same => ?_
    rw [decoded] at same
    cases same
    exact other text rfl
  · intro plain body text isRead
    rcases (decodeAs_text_iff known body text).1 isRead with same | ⟨value, decoded, other, rfl⟩
    · exact .inl same
    · exact .inr (plain text value decoded other)

/-- Behind a mask the body of a truth value is read as a text that nobody wrote. -/
theorem texts_of_masked_truth :
    ∃ registry : PayloadRegistry, registry.find? 7 = some (.masked 7 1)
      ∧ registry.encodeAs 7 (.boolean true) = .ok [0x75, 0x73, 0x74, 0x64]
      ∧ registry.decodeAs 7 .text [0x75, 0x73, 0x74, 0x64] = .ok (.text "ustd")
      ∧ registry.encodeAs 7 (.text "ustd") = .ok [0x74, 0x72, 0x75, 0x65]
      ∧ ¬ (Format.masked 7 1).WritesPlain := by
  have known : (standard.register (.masked 7 1)).registry.find? 7 = some (.masked 7 1) := rfl
  obtain ⟨reads, trustworthy, -⟩ := texts_trustworthy_iff known
  have decoded : (Format.masked 7 1).decode [0x75, 0x73, 0x74, 0x64] = .ok (.boolean true) := by
    have ordered : (Json.boolean true).Ordered := trivial
    have integral : (Json.boolean true).Integral := trivial
    exact Format.jsonDecode_bytes ordered integral
  refine ⟨_, known, rfl, ?_, rfl, ?_⟩
  · exact (reads _ "ustd").2 (.inr ⟨_, decoded, fun _ => nofun, rfl⟩)
  · intro plain
    have written := plain "ustd" _ decoded fun _ => nofun
    exact absurd (Except.ok.inj written) (by decide)

end PayloadRegistry

end Uplink
