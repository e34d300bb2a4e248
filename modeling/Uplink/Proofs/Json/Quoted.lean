/-
Module: Uplink.Proofs.Json.Quoted
Purpose: How quoted texts and tokens are spelled.  A JSON text that denotes a text is a quoted text between
  blanks.
Main exports: RawText.Written, Token.inside_of_textBody, Token.Spelled, Json.Quotes, Json.parse_eq_text_iff
-/
import Uplink.Json.Reader
import Uplink.Proofs.Json.RoundTrip
import Uplink.Proofs.Json.Text
import Uplink.Proofs.Json.Tree
import Uplink.Proofs.Json.Weight

namespace Uplink

open Text

/-! ### Inside quotes -/

/-- How the inside of a quoted text is written: most bytes stand for themselves, some may be a short escape,
and a code unit is a hexadecimal escape. -/
inductive RawText.Written : RawText → List UInt8 → Prop where
  | nil : Written [] []
  | plain {byte : UInt8} {raw : RawText} {inside : List UInt8} (isPlain : Token.Plain byte)
      (rest : Written raw inside) : Written (.byte byte :: raw) (byte :: inside)
  | short {letter byte : UInt8} {raw : RawText} {inside : List UInt8}
      (isShort : Token.shortEscape? letter = some byte) (rest : Written raw inside) :
      Written (.byte byte :: raw) (0x5C :: letter :: inside)
  | unit {first second third fourth : UInt8} {code : Nat} {raw : RawText} {inside : List UInt8}
      (isUnit : Token.codeUnit? first second third fourth = some code) (rest : Written raw inside) :
      Written (.unit code :: raw) (0x5C :: 0x75 :: first :: second :: third :: fourth :: inside)

namespace Token

/-- The bytes are the inside of a quoted text, written with the pieces that `raw` has behind those already
done, and a closing quote in front of the rest. -/
def Inside (done raw : RawText) (bytes rest : List UInt8) : Prop :=
  ∃ found inside, raw = done.reverse ++ found ∧ RawText.Written found inside ∧ bytes = inside ++ 0x22 :: rest

variable {done raw : RawText} {bytes rest : List UInt8}

/-- One piece more is written in front of the others. -/
theorem Inside.cons {piece : TextPiece} (others : Inside (piece :: done) raw bytes rest) (front : List UInt8)
    (extend : ∀ {found : RawText} {inside : List UInt8}, found.Written inside →
      RawText.Written (piece :: found) (front ++ inside)) : Inside done raw (front ++ bytes) rest := by
  obtain ⟨found, inside, same, written, rfl⟩ := others
  refine ⟨piece :: found, front ++ inside, ?_, extend written, (List.append_assoc ..).symm⟩
  rw [same, List.reverse_cons, List.append_assoc, List.singleton_append]

/-- Up to its closing quote a quoted text is scanned as the pieces that it is written with. -/
theorem textBody_of_written {found : RawText} {inside : List UInt8} (written : found.Written inside)
    (done : RawText) (rest : List UInt8) :
    textBody done (inside ++ 0x22 :: rest) = some (done.reverse ++ found, rest) := by
  induction written generalizing done with
  | nil =>
      rw [List.append_nil]
      rfl
  | plain isPlain _ ih =>
      rw [List.cons_append, textBody_plain isPlain, ih, List.reverse_cons, List.append_assoc]
      rfl
  | short isShort _ ih =>
      rw [List.cons_append, List.cons_append, textBody_short isShort, ih, List.reverse_cons,
        List.append_assoc]
      rfl
  | unit isUnit _ ih =>
      simp only [List.cons_append]
      rw [textBody_unit isUnit, ih, List.reverse_cons, List.append_assoc]
      rfl

/-- What is scanned as a quoted text is written with the pieces found. -/
theorem inside_of_textBody (scanned : textBody done bytes = some (raw, rest)) :
    Inside done raw bytes rest := by
  fun_induction textBody done bytes with
  | case2 done tail =>
      cases scanned
      exact ⟨[], [], (List.append_nil _).symm, .nil, rfl⟩
  | case3 done first second third fourth tail code isUnit ih =>
      exact (ih scanned).cons [0x5C, 0x75, first, second, third, fourth] (.unit isUnit)
  | case5 done letter tail _ byte isShort ih =>
      exact (ih scanned).cons [0x5C, letter] (.short isShort)
  | case8 done byte tail notQuote _ _ printable ih =>
      rw [not_or, Nat.not_lt] at printable
      have isPlain : Plain byte := ⟨printable.1, fun same => notQuote (UInt8.toNat_inj.1 same),
        fun same => printable.2 (UInt8.toNat_inj.1 same)⟩
      exact (ih scanned).cons [byte] (.plain isPlain)
  | _ => cases scanned

/-! ### Tokens -/

/-- How some tokens are spelled: blanks anywhere between them, marks by their byte, and every other token as
it is scanned. -/
inductive Spelled : List Token → List UInt8 → Prop where
  | nil : Spelled [] []
  | blank {byte : UInt8} {tokens : List Token} {bytes : List UInt8} (isBlank : isBlank byte = true)
      (rest : Spelled tokens bytes) : Spelled tokens (byte :: bytes)
  | mark {byte : UInt8} {token : Token} {tokens : List Token} {bytes : List UInt8}
      (isMark : punctuation? byte = some token) (rest : Spelled tokens bytes) :
      Spelled (token :: tokens) (byte :: bytes)
  | lexeme {token : Token} {tokens : List Token} {bytes remaining : List UInt8}
      (isLexeme : lexeme? bytes = some (token, remaining)) (rest : Spelled tokens remaining) :
      Spelled (token :: tokens) bytes

/-- What is scanned is spelled with the tokens found. -/
theorem spelled_of_scanOnto {done tokens : List Token} (scanned : scanOnto done bytes = some tokens) :
    ∃ found, tokens = done.reverse ++ found ∧ Spelled found bytes := by
  fun_induction scanOnto done bytes with
  | case1 done =>
      cases scanned
      exact ⟨[], (List.append_nil _).symm, .nil⟩
  | case2 done byte rest isBlank ih =>
      obtain ⟨found, same, spelled⟩ := ih scanned
      exact ⟨found, same, .blank isBlank spelled⟩
  | case3 done byte rest notBlank token isMark ih =>
      obtain ⟨found, same, spelled⟩ := ih scanned
      refine ⟨token :: found, ?_, .mark isMark spelled⟩
      rw [same, List.reverse_cons, List.append_assoc, List.singleton_append]
  | case4 done byte rest notBlank noMark token remaining isLexeme ih =>
      obtain ⟨found, same, spelled⟩ := ih scanned
      refine ⟨token :: found, ?_, .lexeme isLexeme spelled⟩
      rw [same, List.reverse_cons, List.append_assoc, List.singleton_append]
  | case5 => cases scanned

theorem spelled_of_scan {tokens : List Token} (scanned : scan bytes = some tokens) :
    Spelled tokens bytes := by
  obtain ⟨found, rfl, spelled⟩ := spelled_of_scanOnto scanned
  exact spelled

/-! ### Quoted texts -/

theorem lexeme?_text {raw : RawText} (scanned : lexeme? bytes = some (.text raw, rest)) :
    ∃ tail, bytes = 0x22 :: tail ∧ textBody [] tail = some (raw, rest) := by
  unfold lexeme? at scanned
  split at scanned
  · cases scanned
  · rename_i byte tail
    split at scanned
    · rename_i isQuote
      simp only [Option.map_eq_some_iff, Prod.exists, Prod.mk.injEq, Token.text.injEq] at scanned
      obtain ⟨_, _, found, rfl, rfl⟩ := scanned
      exact ⟨tail, by rw [isQuote], found⟩
    · -- No other lexeme is a text.
      exfalso
      split at scanned
      · simp at scanned
      · split at scanned
        · simp at scanned
        · split at scanned
          · rename_i isWord
            simp only [Option.map_eq_some_iff, Prod.mk.injEq] at scanned
            obtain ⟨_, -, rfl, -⟩ := scanned
            exact absurd (weight_word isWord) (by simp only [weight]; omega)
          · cases scanned

/-- No tokens are spelled with blanks only. -/
theorem Spelled.blanks {tokens : List Token} (spelled : Spelled tokens bytes) (none : tokens = []) :
    ∀ byte ∈ bytes, isBlank byte = true := by
  induction spelled with
  | nil => exact fun _ => nofun
  | blank isBlank _ ih => exact List.forall_mem_cons.2 ⟨isBlank, ih none⟩
  | mark _ _ _ => cases none
  | lexeme _ _ _ => cases none

/-- A single text is spelled with blanks, a quoted text and blanks. -/
theorem Spelled.quoted {tokens : List Token} {raw : RawText} (spelled : Spelled tokens bytes)
    (single : tokens = [.text raw]) :
    ∃ before inside after, bytes = before ++ 0x22 :: (inside ++ 0x22 :: after)
      ∧ (∀ byte ∈ before, isBlank byte = true) ∧ (∀ byte ∈ after, isBlank byte = true)
      ∧ RawText.Written raw inside := by
  induction spelled with
  | nil => cases single
  | blank isBlank _ ih =>
      obtain ⟨before, inside, after, rfl, blanks, others⟩ := ih single
      exact ⟨_ :: before, inside, after, rfl, List.forall_mem_cons.2 ⟨isBlank, blanks⟩, others⟩
  | mark isMark _ _ =>
      cases single
      exact absurd (weight_punctuation isMark) (by simp only [weight]; omega)
  | lexeme isLexeme behind _ =>
      cases single
      obtain ⟨tail, rfl, found⟩ := lexeme?_text isLexeme
      obtain ⟨found, inside, rfl, written, rfl⟩ := inside_of_textBody found
      exact ⟨[], inside, _, rfl, List.forall_mem_nil _, behind.blanks rfl, written⟩

theorem scanOnto_blanks {blanks : List UInt8} (areBlank : ∀ byte ∈ blanks, isBlank byte = true)
    (done : List Token) (rest : List UInt8) : scanOnto done (blanks ++ rest) = scanOnto done rest := by
  induction blanks with
  | nil => rfl
  | cons byte others ih =>
      obtain ⟨first, remaining⟩ := List.forall_mem_cons.1 areBlank
      rw [List.cons_append, scanOnto, if_pos first, ih remaining]

end Token

namespace Json

/-- The bytes are a JSON text that denotes a text: in quotes, with the escapes that JSON knows, and with
blanks around it. -/
def Quotes (bytes : List UInt8) (text : String) : Prop :=
  ∃ before raw inside after, bytes = before ++ 0x22 :: (inside ++ 0x22 :: after)
    ∧ (∀ byte ∈ before, Token.isBlank byte = true) ∧ (∀ byte ∈ after, Token.isBlank byte = true)
    ∧ RawText.Written raw inside ∧ raw.decode? = some text

/-- The JSON texts that are read as a text are those that denote it. -/
theorem parse_eq_text_iff {bytes : List UInt8} {text : String} :
    parse bytes = some (.text text) ↔ Quotes bytes text := by
  simp only [parse, parseWithin, JsonTree.read?, Option.bind_eq_bind, Option.bind_eq_some_iff]
  constructor
  · rintro ⟨tree, ⟨tokens, scanned, formed⟩, read⟩
    obtain ⟨raw, rfl, decoded⟩ := JsonTree.value?_text read
    have single := JsonTree.ofTokens?_text formed
    obtain ⟨before, inside, after, same, isBefore, isAfter, written⟩ :=
      (Token.spelled_of_scan scanned).quoted single
    exact ⟨before, raw, inside, after, same, isBefore, isAfter, written, decoded⟩
  · rintro ⟨before, raw, inside, after, rfl, isBefore, isAfter, written, decoded⟩
    have found : Token.lexeme? (0x22 :: (inside ++ 0x22 :: after)) = some (.text raw, after) := by
      rw [Token.lexeme?, if_pos rfl, Token.textBody_of_written written]
      rfl
    have behind : Token.scanOnto [.text raw] after = some [.text raw] := by
      have blanks := Token.scanOnto_blanks isAfter [.text raw] []
      rw [List.append_nil] at blanks
      rw [blanks, Token.scanOnto]
      rfl
    refine ⟨.text raw, ⟨[.text raw], ?_, rfl⟩, ?_⟩
    · rw [Token.scan, Token.scanOnto_blanks isBefore, Token.scanOnto_lexeme rfl rfl found, behind]
    · rw [JsonTree.value?, decoded]
      rfl

end Json

end Uplink
