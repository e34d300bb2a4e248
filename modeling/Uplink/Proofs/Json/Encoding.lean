/-
Module: Uplink.Proofs.Json.Encoding
Purpose: The reader accepts no bytes that are not UTF-8, inside quotes or outside.
Main exports: RawText.Written.encoded, Token.Spelled.encoded, JsonTree.Each, JsonTree.each_of_ofTokens?,
  Json.encoded_of_parse
-/
import Mathlib.Data.List.TakeWhile
import Uplink.Proofs.Json.Quoted
import Uplink.Proofs.Text.Validity

namespace Uplink

open Text

namespace Token

/-! ### Bytes of the ASCII range -/

theorem hexadecimalDigit?_small {byte : UInt8} {digit : Nat}
    (isDigit : hexadecimalDigit? byte.toNat = some digit) : byte.toNat < 0x80 := by
  by_contra large
  rw [hexadecimalDigit?, if_neg (by omega), if_neg (by omega), if_neg (by omega)] at isDigit
  cases isDigit

/-- Only letters and marks of the ASCII range are short escapes, and they stand for such. -/
theorem shortEscape?_small {letter byte : UInt8} (isShort : shortEscape? letter = some byte) :
    letter.toNat < 0x80 ∧ byte.toNat < 0x80 := by
  unfold shortEscape? at isShort
  repeat' split at isShort
  all_goals cases isShort
  all_goals rename_i isLetter; rw [isLetter]; decide

theorem codeUnit?_small {first second third fourth : UInt8} {code : Nat}
    (isUnit : codeUnit? first second third fourth = some code) :
    ∀ byte ∈ [0x5C, 0x75, first, second, third, fourth], byte.toNat < 0x80 := by
  simp only [codeUnit?, Option.bind_eq_bind, Option.bind_eq_some_iff] at isUnit
  obtain ⟨_, isFirst, _, isSecond, _, isThird, _, isFourth, -⟩ := isUnit
  simp only [List.forall_mem_cons, List.not_mem_nil, false_imp_iff, implies_true, and_true]
  exact ⟨by decide, by decide, hexadecimalDigit?_small isFirst, hexadecimalDigit?_small isSecond,
    hexadecimalDigit?_small isThird, hexadecimalDigit?_small isFourth⟩

theorem blank_small {byte : UInt8} (blank : isBlank byte = true) : byte.toNat < 0x80 := by
  simp only [isBlank, Bool.or_eq_true, beq_iff_eq] at blank
  rcases blank with ((rfl | rfl) | rfl) | rfl <;> decide

theorem punctuation?_small {byte : UInt8} {token : Token} (mark : punctuation? byte = some token) :
    byte.toNat < 0x80 := by
  unfold punctuation? at mark
  repeat' split at mark
  all_goals cases mark
  all_goals rename_i isByte; rw [isByte]; decide

/-- The three words, with the letter they start with, are in the ASCII range. -/
theorem word?_small {letter : UInt8} {word : List UInt8} {token : Token}
    (isWord : word? letter = some (word, token)) : ∀ byte ∈ letter :: word, byte.toNat < 0x80 := by
  unfold word? at isWord
  repeat' split at isWord
  all_goals cases isWord
  all_goals rename_i isLetter; rw [isLetter]; simp

end Token

namespace RawText

/-- The raw text denotes a text. -/
def Decodes (raw : RawText) : Prop :=
  raw.decode?.isSome

/-- Bytes of the ASCII range in the place of a text inside a text leave it a text. -/
theorem encoded_escape {done inside : List UInt8} (middle escape : List UInt8)
    (encoded : Encoded ((middle.reverse ++ done).reverse ++ inside)) (isText : Encoded middle)
    (notEmpty : middle ≠ []) (small : ∀ byte ∈ escape, byte.toNat < 0x80) :
    Encoded (done.reverse ++ (escape ++ inside)) := by
  rw [List.reverse_append, List.reverse_reverse, List.append_assoc] at encoded
  exact encoded.patch isText notEmpty (encoded_of_small small)

/-- If the bytes that a raw text stands for are a text, so are those that it is written with.  An escape
stands for whole characters, so it may take their place. -/
theorem Written.encoded {raw : RawText} {inside done denoted : List UInt8} (written : raw.Written inside)
    (gathered : bytesOnto done raw = some denoted) (isText : Encoded denoted) :
    Encoded (done.reverse ++ inside) := by
  fun_induction bytesOnto done raw generalizing inside with
  | case1 done =>
      cases written
      cases gathered
      rw [List.append_nil]
      exact isText
  | case2 done value rest ih =>
      cases written with
      | plain _ others =>
          have whole := ih others gathered
          rw [List.reverse_cons, List.append_assoc] at whole
          exact whole
      | @short letter _ _ _ isShort others =>
          obtain ⟨letterSmall, valueSmall⟩ := Token.shortEscape?_small isShort
          have single : Encoded [value] := encoded_of_small (by simpa using valueSmall)
          exact encoded_escape [value] [0x5C, letter] (ih others gathered) single (List.cons_ne_nil _ _)
            (by simpa using letterSmall)
  | case3 done code rest scalar ih =>
      cases written with
      | @unit first second third fourth _ _ _ isUnit others =>
          exact encoded_escape _ [0x5C, 0x75, first, second, third, fourth] (ih others gathered)
            (encoded_utf8Char _) (utf8Char_ne_nil _) (Token.codeUnit?_small isUnit)
  | case5 done code notScalar notLow low rest isLow character =>
      rename_i ih
      cases written with
      | @unit a b c d _ _ _ isHigh others =>
          cases others with
          | @unit e f g h _ _ _ isLow others =>
              refine encoded_escape _ ([0x5C, 0x75, a, b, c, d] ++ [0x5C, 0x75, e, f, g, h]) (ih others gathered)
                (encoded_utf8Char _) (utf8Char_ne_nil _) ?_
              intro byte isMember
              rcases List.mem_append.1 isMember with isMember | isMember
              · exact Token.codeUnit?_small isHigh byte isMember
              · exact Token.codeUnit?_small isLow byte isMember
  | _ => cases gathered

end RawText

/-! ### Tokens -/

namespace Token

/-- The text that a token carries, if it carries one, has a property. -/
def Each (holds : RawText → Prop) : Token → Prop
  | .text raw => holds raw
  | _ => True

variable {bytes rest : List UInt8}

theorem upTo_afterDigits (bytes : List UInt8) : EncodedUpTo bytes (afterDigits bytes) := by
  have small : ∀ byte ∈ bytes.takeWhile isDigit, byte.toNat < 0x80 := by
    intro byte isMember
    have isDigit := List.mem_takeWhile_imp isMember
    simp only [Token.isDigit, Bool.and_eq_true, decide_eq_true_eq] at isDigit
    omega
  have parts := EncodedUpTo.ascii small (bytes.dropWhile isDigit)
  rw [List.takeWhile_append_dropWhile] at parts
  exact parts

theorem upTo_fractionPart {fraction : List Nat} (scanned : fractionPart bytes = some (fraction, rest)) :
    EncodedUpTo bytes rest := by
  unfold fractionPart at scanned
  split at scanned
  · rename_i tail
    dsimp only at scanned
    split at scanned
    · cases scanned
    · cases scanned
      exact (upTo_afterDigits tail).cons (by decide)
  · cases scanned
    exact .refl _

theorem upTo_exponentSign (bytes : List UInt8) : EncodedUpTo bytes (exponentSign bytes).2 := by
  unfold exponentSign
  split
  · exact (EncodedUpTo.refl _).cons (by decide)
  · exact (EncodedUpTo.refl _).cons (by decide)
  · exact .refl _

theorem upTo_exponentPart {exponent : Option (Bool × List Nat)}
    (scanned : exponentPart bytes = some (exponent, rest)) : EncodedUpTo bytes rest := by
  unfold exponentPart at scanned
  split at scanned
  · rename_i byte tail
    split at scanned
    · rename_i isLetter
      have small : byte.toNat < 0x80 := by rcases isLetter with rfl | rfl <;> decide
      dsimp only at scanned
      split at scanned
      · cases scanned
      · cases scanned
        exact ((upTo_exponentSign tail).trans (upTo_afterDigits _)).cons small
    · cases scanned
      exact .refl _
  · cases scanned
    exact .refl _

theorem upTo_unsignedNumber? {negative : Bool} {literal : Literal}
    (scanned : unsignedNumber? negative bytes = some (literal, rest)) : EncodedUpTo bytes rest := by
  unfold unsignedNumber? at scanned
  dsimp only at scanned
  split at scanned
  · cases scanned
  · simp only [Option.bind_eq_bind, Option.bind_eq_some_iff, Prod.exists] at scanned
    obtain ⟨fraction, afterFraction, isFraction, exponent, remaining, isExponent, same⟩ := scanned
    cases same
    exact (upTo_afterDigits bytes).trans
      ((upTo_fractionPart isFraction).trans (upTo_exponentPart isExponent))

theorem upTo_afterWord? {word : List UInt8} (small : ∀ byte ∈ word, byte.toNat < 0x80)
    (scanned : afterWord? word bytes = some rest) : EncodedUpTo bytes rest := by
  unfold afterWord? at scanned
  split at scanned
  · rename_i isFront
    obtain ⟨behind, rfl⟩ := List.isPrefixOf_iff_prefix.1 isFront
    rw [List.drop_left] at scanned
    cases scanned
    exact .ascii small rest
  · cases scanned

/-- A quoted text is a text as long as its inside can be decoded. -/
theorem upTo_textBody {raw : RawText} (scanned : textBody [] bytes = some (raw, rest))
    (decodes : RawText.Decodes raw) : EncodedUpTo bytes rest := by
  obtain ⟨found, inside, rfl, written, rfl⟩ := inside_of_textBody scanned
  obtain ⟨text, decoded⟩ := Option.isSome_iff_exists.1 decodes
  simp only [RawText.decode?, Option.bind_eq_bind, Option.bind_eq_some_iff,
    textOfBytes?_eq_some_iff] at decoded
  obtain ⟨denoted, gathered, isDenoted⟩ := decoded
  refine EncodedUpTo.trans ⟨inside, written.encoded gathered ⟨text, isDenoted⟩, rfl⟩ ?_
  exact (EncodedUpTo.refl rest).cons (by decide)

/-- A token that can be decoded is scanned from a text. -/
theorem upTo_lexeme? {token : Token} (scanned : lexeme? bytes = some (token, rest))
    (decodes : token.Each RawText.Decodes) : EncodedUpTo bytes rest := by
  unfold lexeme? at scanned
  split at scanned
  · cases scanned
  · rename_i byte tail
    split at scanned
    · rename_i isQuote
      simp only [Option.map_eq_some_iff, Prod.exists, Prod.mk.injEq] at scanned
      obtain ⟨raw, remaining, found, rfl, rfl⟩ := scanned
      exact (upTo_textBody found decodes).cons (by rw [isQuote]; decide)
    · split at scanned
      · rename_i isMinus
        simp only [Option.map_eq_some_iff, Prod.exists, Prod.mk.injEq] at scanned
        obtain ⟨literal, remaining, found, rfl, rfl⟩ := scanned
        exact (upTo_unsignedNumber? found).cons (by rw [isMinus]; decide)
      · split at scanned
        · simp only [Option.map_eq_some_iff, Prod.exists, Prod.mk.injEq] at scanned
          obtain ⟨literal, remaining, found, rfl, rfl⟩ := scanned
          exact upTo_unsignedNumber? found
        · split at scanned
          · rename_i word _ isWord
            simp only [Option.map_eq_some_iff, Prod.mk.injEq] at scanned
            obtain ⟨remaining, found, rfl, rfl⟩ := scanned
            obtain ⟨first, others⟩ := List.forall_mem_cons.1 (word?_small isWord)
            exact (upTo_afterWord? others found).cons first
          · cases scanned

/-- Tokens that can be decoded are spelled with a text. -/
theorem Spelled.encoded {tokens : List Token} (spelled : Spelled tokens bytes)
    (decodes : ∀ token ∈ tokens, token.Each RawText.Decodes) : Encoded bytes := by
  have whole : EncodedUpTo bytes [] := by
    induction spelled with
    | nil => exact .refl []
    | blank isBlank _ ih => exact (ih decodes).cons (blank_small isBlank)
    | mark isMark _ ih =>
        exact (ih (List.forall_mem_cons.1 decodes).2).cons (punctuation?_small isMark)
    | lexeme isLexeme _ ih =>
        obtain ⟨first, others⟩ := List.forall_mem_cons.1 decodes
        exact (upTo_lexeme? isLexeme first).trans (ih others)
  exact whole.encoded

end Token

/-! ### Trees -/

namespace JsonTree

mutual

/-- Every text of a tree, keys included, has a property. -/
def Each (holds : RawText → Prop) : JsonTree → Prop
  | .null => True
  | .boolean _ => True
  | .number _ => True
  | .text raw => holds raw
  | .array items => EachItem holds items
  | .object members => EachMember holds members

/-- Every text of some items has a property. -/
def EachItem (holds : RawText → Prop) : List JsonTree → Prop
  | [] => True
  | item :: rest => Each holds item ∧ EachItem holds rest

/-- Every text of some members has a property. -/
def EachMember (holds : RawText → Prop) : List (RawText × JsonTree) → Prop
  | [] => True
  | (key, item) :: rest => holds key ∧ Each holds item ∧ EachMember holds rest

end

mutual

/-- A tree has a value only if each of its texts can be decoded. -/
theorem each_of_value? {tree : JsonTree} {limit : Nat} {value : Json}
    (read : tree.value? limit = some value) : tree.Each RawText.Decodes := by
  match tree, limit with
  | .null, _ => trivial
  | .boolean _, _ => trivial
  | .number _, _ => trivial
  | .text raw, _ =>
      obtain ⟨text, decoded, -⟩ := Option.map_eq_some_iff.1 read
      exact Option.isSome_of_eq_some decoded
  | .array items, 0 => cases read
  | .array items, inner + 1 =>
      obtain ⟨values, readItems, -⟩ := Option.map_eq_some_iff.1 read
      exact eachItem_of_values? readItems
  | .object members, 0 => cases read
  | .object members, inner + 1 =>
      obtain ⟨values, readMembers, -⟩ := Option.map_eq_some_iff.1 read
      exact eachMember_of_members? readMembers

theorem eachItem_of_values? {items : List JsonTree} {limit : Nat} {values : List Json}
    (read : values? limit items = some values) : EachItem RawText.Decodes items := by
  match items with
  | [] => trivial
  | item :: rest =>
      simp only [values?, Option.bind_eq_bind, Option.bind_eq_some_iff] at read
      obtain ⟨value, readItem, others, readRest, -⟩ := read
      exact ⟨each_of_value? readItem, eachItem_of_values? readRest⟩

theorem eachMember_of_members? {members : List (RawText × JsonTree)} {limit : Nat}
    {values : List (String × Json)} (read : members? limit members = some values) :
    EachMember RawText.Decodes members := by
  match members with
  | [] => trivial
  | (key, item) :: rest =>
      simp only [members?, Option.bind_eq_bind, Option.bind_eq_some_iff] at read
      obtain ⟨text, decoded, value, readItem, others, readRest, -⟩ := read
      exact ⟨Option.isSome_of_eq_some decoded, each_of_value? readItem, eachMember_of_members? readRest⟩

end

section

variable {holds : RawText → Prop}

theorem eachItem_iff {items : List JsonTree} : EachItem holds items ↔ ∀ item ∈ items, item.Each holds := by
  induction items with
  | nil => exact ⟨fun _ => nofun, fun _ => trivial⟩
  | cons item rest ih => rw [EachItem, ih, List.forall_mem_cons]

theorem eachMember_iff {members : List (RawText × JsonTree)} :
    EachMember holds members ↔ ∀ member ∈ members, holds member.1 ∧ member.2.Each holds := by
  induction members with
  | nil => exact ⟨fun _ => nofun, fun _ => trivial⟩
  | cons member rest ih => rw [EachMember, ih, List.forall_mem_cons, and_assoc]

theorem eachItem_reverse {items : List JsonTree} : EachItem holds items.reverse ↔ EachItem holds items := by
  simp only [eachItem_iff, List.mem_reverse]

theorem eachMember_reverse {members : List (RawText × JsonTree)} :
    EachMember holds members.reverse ↔ EachMember holds members := by
  simp only [eachMember_iff, List.mem_reverse]

/-! ### No text is lost on the way to the tree

The property is followed backwards: whatever holds of all texts of a configuration held of the token that led
there and of the configuration before. -/

/-- Every text of an open container has the property. -/
def Pending.Each (holds : RawText → Prop) : Pending → Prop
  | .array done => EachItem holds done
  | .object done => EachMember holds done
  | .member done key => EachMember holds done ∧ holds key

/-- Every text of a configuration has the property. -/
def Reading.Each (holds : RawText → Prop) (reading : Reading) : Prop :=
  match reading.expected with
  | .nothing result => result.Each holds
  | .colon key => holds key ∧ ∀ pending ∈ reading.stack, pending.Each holds
  | _ => ∀ pending ∈ reading.stack, pending.Each holds

variable {stack : List Pending} {token : Token} {value : JsonTree} {reading next : Reading}

theorem each_deliver (delivered : deliver value stack = some next) (each : next.Each holds) :
    value.Each holds ∧ ∀ pending ∈ stack, pending.Each holds := by
  unfold deliver at delivered
  split at delivered
  · cases delivered
    exact ⟨each, fun _ => nofun⟩
  · cases delivered
    obtain ⟨top, outer⟩ := List.forall_mem_cons.1 each
    exact ⟨top.1, List.forall_mem_cons.2 ⟨top.2, outer⟩⟩
  · cases delivered
    obtain ⟨top, outer⟩ := List.forall_mem_cons.1 each
    exact ⟨top.2.1, List.forall_mem_cons.2 ⟨⟨top.2.2, top.1⟩, outer⟩⟩
  · cases delivered

theorem each_beginValue (begun : beginValue stack token = some next) (each : next.Each holds) :
    token.Each holds ∧ ∀ pending ∈ stack, pending.Each holds := by
  cases token with
  | null => exact each_deliver begun each
  | boolean value => exact each_deliver begun each
  | number literal => exact each_deliver begun each
  | text raw => exact each_deliver begun each
  | openArray =>
      cases begun
      exact ⟨trivial, (List.forall_mem_cons.1 each).2⟩
  | openObject =>
      cases begun
      exact ⟨trivial, (List.forall_mem_cons.1 each).2⟩
  | _ => cases begun

theorem each_closeWith (closed : closeWith stack token = some next) (each : next.Each holds) :
    token.Each holds ∧ ∀ pending ∈ stack, pending.Each holds := by
  unfold closeWith at closed
  split at closed
  · split at closed
    · obtain ⟨items, outer⟩ := each_deliver closed each
      exact ⟨trivial, List.forall_mem_cons.2 ⟨eachItem_reverse.1 items, outer⟩⟩
    · cases closed
  · split at closed
    · obtain ⟨members, outer⟩ := each_deliver closed each
      exact ⟨trivial, List.forall_mem_cons.2 ⟨eachMember_reverse.1 members, outer⟩⟩
    · cases closed
  · cases closed

/-- One token. -/
theorem each_step (stepped : step reading token = some next) (each : next.Each holds) :
    token.Each holds ∧ reading.Each holds := by
  obtain ⟨expected, stack⟩ := reading
  cases expected with
  | value => exact (each_beginValue stepped each)
  | firstItem =>
      simp only [step] at stepped
      split at stepped
      · exact (each_closeWith stepped each)
      · exact (each_beginValue stepped each)
  | separator =>
      simp only [step] at stepped
      split at stepped
      · cases stepped
        exact ⟨trivial, each⟩
      · cases stepped
        exact ⟨trivial, each⟩
      · exact (each_closeWith stepped each)
  | firstKey =>
      simp only [step] at stepped
      split at stepped
      · cases stepped
        exact each
      · exact (each_closeWith stepped each)
      · cases stepped
  | key =>
      simp only [step] at stepped
      split at stepped
      · cases stepped
        exact each
      · cases stepped
  | colon key =>
      simp only [step] at stepped
      split at stepped
      · cases stepped
        obtain ⟨top, outer⟩ := List.forall_mem_cons.1 each
        exact ⟨trivial, top.2, List.forall_mem_cons.2 ⟨top.1, outer⟩⟩
      · cases stepped
  | nothing result => cases stepped

/-- Many tokens. -/
theorem each_run {tokens : List Token} (ran : run reading tokens = some next) (each : next.Each holds) :
    (∀ token ∈ tokens, token.Each holds) ∧ reading.Each holds := by
  induction tokens generalizing reading with
  | nil =>
      cases ran
      exact ⟨fun _ => nofun, each⟩
  | cons token rest ih =>
      simp only [run] at ran
      split at ran
      · rename_i stepped
        obtain ⟨others, between⟩ := ih ran
        obtain ⟨first, before⟩ := each_step stepped between
        exact ⟨List.forall_mem_cons.2 ⟨first, others⟩, before⟩
      · cases ran

/-- What holds of every text of a tree holds of every text among the tokens that it was formed from. -/
theorem each_of_ofTokens? {tokens : List Token} {tree : JsonTree} (formed : ofTokens? tokens = some tree)
    (each : tree.Each holds) : ∀ token ∈ tokens, token.Each holds := by
  unfold ofTokens? at formed
  split at formed
  · rename_i ran
    cases formed
    exact (each_run ran each).1
  · cases formed

end

end JsonTree

namespace Json

/-- A JSON text that has a value is valid UTF-8. -/
theorem encoded_of_parse {bytes : List UInt8} {value : Json} (read : parse bytes = some value) :
    Encoded bytes := by
  simp only [parse, parseWithin, JsonTree.read?, Option.bind_eq_bind, Option.bind_eq_some_iff] at read
  obtain ⟨tree, ⟨tokens, scanned, formed⟩, isValue⟩ := read
  have decodes := JsonTree.each_of_ofTokens? formed (JsonTree.each_of_value? isValue)
  exact (Token.spelled_of_scan scanned).encoded decodes

end Json

end Uplink
