/-
Module: Uplink.Proofs.Json.RoundTrip
Purpose: The compact text of a value without reals is read as that value, exactly up to the nesting limit.
Main exports: Json.tree, Json.scan_bytes, Json.value?_tree, Json.parseWithin_bytes,
  Json.bytesOfText_render
-/
import Mathlib.Data.List.Basic
import Uplink.Proofs.Json.Number
import Uplink.Proofs.Json.Ordered
import Uplink.Proofs.Json.Text
import Uplink.Proofs.Json.Tree

namespace Uplink

open Text

namespace Token

/-! ### Scanning -/

variable {byte : UInt8} {token : Token} {rest remaining : List UInt8}

theorem scanOnto_punctuation (token : Token) (notBlank : isBlank byte = false)
    (mark : punctuation? byte = some token) (done : List Token) (rest : List UInt8) :
    scanOnto done (byte :: rest) = scanOnto (token :: done) rest := by
  rw [scanOnto, if_neg (by rw [notBlank]; exact Bool.false_ne_true)]
  simp only [mark]

theorem scanOnto_lexeme (notBlank : isBlank byte = false) (noMark : punctuation? byte = none)
    (found : lexeme? (byte :: rest) = some (token, remaining)) (done : List Token) :
    scanOnto done (byte :: rest) = scanOnto (token :: done) remaining := by
  rw [scanOnto, if_neg (by rw [notBlank]; exact Bool.false_ne_true)]
  simp only [noMark]
  split
  · rename_i same
    rw [found] at same
    cases same
    rfl
  · rename_i same
    rw [found] at same
    cases same

/-- A quoted text is one token. -/
theorem scanOnto_quoted (done : List Token) (text : String) (rest : List UInt8) :
    scanOnto done (Json.quoted text ++ rest) = scanOnto (.text (RawText.ofText text) :: done) rest := by
  have found : lexeme? (0x22 :: (text.toList.flatMap Json.escapedChar ++ 0x22 :: rest))
      = some (.text (RawText.ofText text), rest) := by
    rw [lexeme?, if_pos rfl, textBody_quoted]
    rfl
  simp only [Json.quoted, List.cons_append, List.append_assoc, List.nil_append]
  exact scanOnto_lexeme rfl rfl found done

/-- A numeral without a sign is one token, since no digit starts anything else. -/
theorem scanOnto_numeral {number : Nat} {literal : Literal}
    (scanned : unsignedNumber? false (numeral (digits 10 number) ++ rest) = some (literal, remaining))
    (done : List Token) :
    scanOnto done (numeral (digits 10 number) ++ rest) = scanOnto (.number literal :: done) remaining := by
  have classes : ∀ digit < 10, isBlank (UInt8.ofNat (48 + digit)) = false
      ∧ punctuation? (UInt8.ofNat (48 + digit)) = none ∧ UInt8.ofNat (48 + digit) ≠ 0x22
      ∧ UInt8.ofNat (48 + digit) ≠ 0x2D := by decide
  have small : ∀ digit ∈ digits 10 number, digit < 10 := digits_lt (by decide) number
  rcases digitList : digits 10 number with _ | ⟨first, others⟩
  · exact absurd digitList (digits_ne_nil 10 number)
  · rw [digitList] at small scanned
    have firstSmall := small first List.mem_cons_self
    obtain ⟨notBlank, noMark, noQuote, noSign⟩ := classes first firstSmall
    refine scanOnto_lexeme notBlank noMark ?_ done
    rw [lexeme?, if_neg noQuote, if_neg noSign, if_pos (isDigit_ofNat firstSmall)]
    exact congrArg (Option.map _) scanned

/-- The text of an integer is one token. -/
theorem scanOnto_integer (done : List Token) (number : WireInteger) (ends : Ends rest) :
    scanOnto done (bytesOfText (signedDecimal number.value) ++ rest)
      = scanOnto (.number number.literal :: done) rest := by
  rcases number with ⟨number | number, least, limit⟩
  · simp only [signedDecimal, bytesOfText_decimal]
    exact scanOnto_numeral (unsignedNumber?_numeral false number ends) done
  · have signed : bytesOfText ("-" ++ decimal (number + 1))
        = 0x2D :: bytesOfText (decimal (number + 1)) := by
      simp only [bytesOfText, String.toList_append, utf8Encode, List.flatMap_append]
      rfl
    have isNegative : decide (Int.negSucc number < 0) = true :=
      decide_eq_true (Int.negSucc_lt_zero number)
    simp only [signedDecimal, signed, bytesOfText_decimal, List.cons_append, WireInteger.literal,
      isNegative]
    refine scanOnto_lexeme rfl rfl ?_ done
    rw [lexeme?, if_neg (by decide), if_pos rfl]
    exact congrArg (Option.map _) (unsignedNumber?_numeral true (number + 1) ends)

end Token

namespace Json

/-! ### The tree of a value -/

mutual

/-- The tree that the text of a value is read as.  Reals are left aside. -/
def tree : Json → JsonTree
  | .null => .null
  | .boolean value => .boolean value
  | .number (.integer value) => .number value.literal
  | .number (.real _) => .number default
  | .text value => .text (RawText.ofText value)
  | .array items => .array (treesOfItems items)
  | .object members => .object (treesOfMembers members)

/-- The trees of some items. -/
def treesOfItems : List Json → List JsonTree
  | [] => []
  | item :: rest => tree item :: treesOfItems rest

/-- The keys as written and the trees of some members. -/
def treesOfMembers : List (String × Json) → List (RawText × JsonTree)
  | [] => []
  | (key, value) :: rest => (RawText.ofText key, tree value) :: treesOfMembers rest

end

/-! ### From bytes to tokens -/

/-- Behind an item comes a comma or a bracket, so a number ends there. -/
theorem ends_items (items : List Json) (rest : List UInt8) : Token.Ends (bytesOfItems items ++ rest) := by
  cases items <;> exact ⟨rfl, by decide, by decide, by decide⟩

theorem ends_members (members : List (String × Json)) (rest : List UInt8) :
    Token.Ends (bytesOfMembers members ++ rest) := by
  cases members <;> exact ⟨rfl, by decide, by decide, by decide⟩

mutual

/-- The text of a value is scanned as the tokens of its tree. -/
theorem scanOnto_bytes {value : Json} (integral : value.Integral) {rest : List UInt8}
    (ends : Token.Ends rest) (done : List Token) :
    Token.scanOnto done (value.bytes ++ rest) = Token.scanOnto (value.tree.tokens.reverse ++ done) rest := by
  match value with
  | .null => exact Token.scanOnto_lexeme rfl rfl rfl done
  | .boolean true => exact Token.scanOnto_lexeme rfl rfl rfl done
  | .boolean false => exact Token.scanOnto_lexeme rfl rfl rfl done
  | .number (.integer whole) => exact Token.scanOnto_integer done whole ends
  | .number (.real double) =>
      obtain ⟨_, same⟩ := integral
      cases same
  | .text content => exact Token.scanOnto_quoted done content rest
  | .array [] =>
      exact (Token.scanOnto_punctuation _ rfl rfl done _).trans
        (Token.scanOnto_punctuation _ rfl rfl _ rest)
  | .array (item :: others) =>
      obtain ⟨first, remaining⟩ := integral
      simp only [bytes, List.cons_append, List.append_assoc, tree, treesOfItems, JsonTree.tokens,
        List.reverse_cons, List.reverse_append, List.nil_append]
      rw [Token.scanOnto_punctuation .openArray rfl rfl,
        scanOnto_bytes first (ends_items others rest), scanOnto_bytesOfItems remaining]
  | .object [] =>
      exact (Token.scanOnto_punctuation _ rfl rfl done _).trans
        (Token.scanOnto_punctuation _ rfl rfl _ rest)
  | .object ((key, item) :: others) =>
      obtain ⟨-, first, remaining⟩ := integral
      simp only [bytes, List.cons_append, List.append_assoc, tree, treesOfMembers, JsonTree.tokens,
        List.reverse_cons, List.reverse_append, List.nil_append]
      rw [Token.scanOnto_punctuation .openObject rfl rfl, Token.scanOnto_quoted,
        Token.scanOnto_punctuation .colon rfl rfl,
        scanOnto_bytes first (ends_members others rest), scanOnto_bytesOfMembers remaining]

theorem scanOnto_bytesOfItems {items : List Json}
    (integral : EveryItem Number.IsInteger (fun _ => True) items) (rest : List UInt8)
    (done : List Token) :
    Token.scanOnto done (bytesOfItems items ++ rest)
      = Token.scanOnto ((JsonTree.tokensOfItems (treesOfItems items)).reverse ++ done) rest := by
  match items with
  | [] => exact Token.scanOnto_punctuation _ rfl rfl done rest
  | item :: others =>
      obtain ⟨first, remaining⟩ := integral
      simp only [bytesOfItems, List.cons_append, List.append_assoc, treesOfItems,
        JsonTree.tokensOfItems, List.reverse_cons, List.reverse_append, List.nil_append]
      rw [Token.scanOnto_punctuation .comma rfl rfl,
        scanOnto_bytes first (ends_items others rest), scanOnto_bytesOfItems remaining]

theorem scanOnto_bytesOfMembers {members : List (String × Json)}
    (integral : EveryMember Number.IsInteger (fun _ => True) members) (rest : List UInt8)
    (done : List Token) :
    Token.scanOnto done (bytesOfMembers members ++ rest)
      = Token.scanOnto ((JsonTree.tokensOfMembers (treesOfMembers members)).reverse ++ done) rest := by
  match members with
  | [] => exact Token.scanOnto_punctuation _ rfl rfl done rest
  | (key, item) :: others =>
      obtain ⟨first, remaining⟩ := integral
      simp only [bytesOfMembers, List.cons_append, List.append_assoc, treesOfMembers,
        JsonTree.tokensOfMembers, List.reverse_cons, List.reverse_append, List.nil_append]
      rw [Token.scanOnto_punctuation .comma rfl rfl, Token.scanOnto_quoted,
        Token.scanOnto_punctuation .colon rfl rfl,
        scanOnto_bytes first (ends_members others rest), scanOnto_bytesOfMembers remaining]

end

/-- The text of a value is split into the tokens of its tree. -/
theorem scan_bytes {value : Json} (integral : value.Integral) :
    Token.scan value.bytes = some value.tree.tokens := by
  have ends : Token.Ends [] := trivial
  have scans := scanOnto_bytes integral ends []
  rw [List.append_nil, List.append_nil, Token.scanOnto, List.reverse_reverse] at scans
  exact scans

/-- The text of a value is read as the tree of the value. -/
theorem read?_bytes {value : Json} (integral : value.Integral) :
    JsonTree.read? value.bytes = some value.tree := by
  rw [JsonTree.read?, scan_bytes integral]
  exact JsonTree.ofTokens?_tokens value.tree

/-! ### From trees to values -/

mutual

/-- The tree of a value is read as the value, if the value does not nest too deeply. -/
theorem value?_tree {value : Json} (ordered : value.Ordered) (integral : value.Integral) (limit : Nat) :
    value.tree.value? limit = if value.depth ≤ limit then some value else none := by
  match value with
  | .null => rfl
  | .boolean _ => rfl
  | .number (.integer whole) =>
      simp only [tree, JsonTree.value?, WireInteger.number?_literal, depth]
      rfl
  | .number (.real double) =>
      obtain ⟨_, same⟩ := integral
      cases same
  | .text content =>
      simp only [tree, JsonTree.value?, RawText.decode?_ofText, depth]
      rfl
  | .array items =>
      cases limit with
      | zero => rfl
      | succ inner =>
          simp only [tree, JsonTree.value?, values?_trees ordered integral, depth,
            Nat.add_le_add_iff_right]
          split <;> rfl
  | .object members =>
      obtain ⟨ascending, values⟩ := ordered
      cases limit with
      | zero => rfl
      | succ inner =>
          simp only [tree, JsonTree.value?, members?_trees values integral.2, depth,
            Nat.add_le_add_iff_right]
          split
          · exact congrArg (fun sorted => some (Json.object sorted)) (sortMembers_of_ascending ascending)
          · rfl

theorem values?_trees {items : List Json} (ordered : EveryItem (fun _ => True) (List.Pairwise (· < ·)) items)
    (integral : EveryItem Number.IsInteger (fun _ => True) items) (limit : Nat) :
    JsonTree.values? limit (treesOfItems items)
      = if depthOfItems items ≤ limit then some items else none := by
  match items with
  | [] => rfl
  | item :: rest =>
      simp only [treesOfItems, JsonTree.values?, value?_tree ordered.1 integral.1,
        values?_trees ordered.2 integral.2, depthOfItems, Nat.max_le]
      by_cases first : item.depth ≤ limit
      · by_cases others : depthOfItems rest ≤ limit
        · simp only [first, others, if_true, and_self, Option.bind_eq_bind, Option.bind_some]
        · simp only [first, others, if_true, if_false, and_false, Option.bind_eq_bind, Option.bind_some,
            Option.bind_none]
      · simp only [first, if_false, false_and, Option.bind_eq_bind, Option.bind_none]

theorem members?_trees {members : List (String × Json)}
    (ordered : EveryMember (fun _ => True) (List.Pairwise (· < ·)) members)
    (integral : EveryMember Number.IsInteger (fun _ => True) members) (limit : Nat) :
    JsonTree.members? limit (treesOfMembers members)
      = if depthOfMembers members ≤ limit then some members else none := by
  match members with
  | [] => rfl
  | (key, item) :: rest =>
      simp only [treesOfMembers, JsonTree.members?, RawText.decode?_ofText,
        value?_tree ordered.1 integral.1, members?_trees ordered.2 integral.2, depthOfMembers, Nat.max_le]
      by_cases first : item.depth ≤ limit
      · by_cases others : depthOfMembers rest ≤ limit
        · simp only [first, others, if_true, and_self, Option.bind_eq_bind, Option.bind_some]
        · simp only [first, others, if_true, if_false, and_false, Option.bind_eq_bind, Option.bind_some,
            Option.bind_none]
      · simp only [first, if_false, false_and, Option.bind_eq_bind, Option.bind_some, Option.bind_none]

end

/-- The text of a value is read as the value, if the value does not nest too deeply, and is refused
otherwise. -/
theorem parseWithin_bytes {value : Json} (ordered : value.Ordered) (integral : value.Integral)
    (limit : Nat) :
    parseWithin limit value.bytes = if value.depth ≤ limit then some value else none := by
  rw [parseWithin, read?_bytes integral]
  exact value?_tree ordered integral limit

/-! ### The text of a value -/

theorem encoded_escapedChar (character : Char) : Encoded (escapedChar character) := by
  unfold escapedChar
  split
  case h_8 =>
    split
    · exact (encoded_ascii rfl).append ⟨_, rfl⟩
    · exact encoded_utf8Char character
  all_goals exact encoded_ascii rfl

/-- A byte of the ASCII range may stand in front of any text. -/
theorem encoded_cons {byte : UInt8} (small : byte.toNat < 0x80) {rest : List UInt8}
    (encoded : Encoded rest) : Encoded (byte :: rest) := by
  have single : Encoded [byte] := encoded_ascii (by
    simp only [List.all_cons, List.all_nil, decide_eq_true small, Bool.and_true])
  exact single.append encoded

theorem encoded_quoted (text : String) : Encoded (quoted text) :=
  encoded_cons (by decide)
    ((Encoded.flatMap encoded_escapedChar).append (encoded_ascii rfl))

mutual

/-- What is written for a value is UTF-8. -/
theorem encoded_bytes (value : Json) : Encoded value.bytes := by
  match value with
  | .null => exact encoded_ascii rfl
  | .boolean true => exact encoded_ascii rfl
  | .boolean false => exact encoded_ascii rfl
  | .number written => exact ⟨written.text, rfl⟩
  | .text content => exact encoded_quoted content
  | .array [] => exact encoded_ascii rfl
  | .array (item :: rest) =>
      exact encoded_cons (by decide) ((encoded_bytes item).append (encoded_bytesOfItems rest))
  | .object [] => exact encoded_ascii rfl
  | .object ((key, item) :: rest) =>
      exact encoded_cons (by decide) ((encoded_quoted key).append (encoded_cons (by decide)
        ((encoded_bytes item).append (encoded_bytesOfMembers rest))))

theorem encoded_bytesOfItems (items : List Json) : Encoded (bytesOfItems items) := by
  match items with
  | [] => exact encoded_ascii rfl
  | item :: rest =>
      exact encoded_cons (by decide) ((encoded_bytes item).append (encoded_bytesOfItems rest))

theorem encoded_bytesOfMembers (members : List (String × Json)) : Encoded (bytesOfMembers members) := by
  match members with
  | [] => exact encoded_ascii rfl
  | (key, item) :: rest =>
      exact encoded_cons (by decide) ((encoded_quoted key).append (encoded_cons (by decide)
        ((encoded_bytes item).append (encoded_bytesOfMembers rest))))

end

/-- The rendered text of a value has the value's bytes. -/
theorem bytesOfText_render (value : Json) : bytesOfText value.render = value.bytes := by
  obtain ⟨text, same⟩ := encoded_bytes value
  rw [render, ← same, textOfBytes?_bytesOfText, Option.getD_some]

end Json

end Uplink
