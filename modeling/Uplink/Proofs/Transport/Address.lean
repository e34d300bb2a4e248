/-
Module: Uplink.Proofs.Transport.Address
Purpose: What becomes of an address when its text is read again.  The text has brackets only around a host
  with a colon, but a bracketed host may hold any characters, so a host that begins with a bracket of its
  own is taken apart on the way back.
Main exports: Address.splitLast?_of_not_mem, Address.port?_decimal, Address.ofText?_text,
  Address.parse_text_iff
-/
import Uplink.Proofs.Text.Numeral
import Uplink.Transport.Address

namespace Uplink.Address

open Text

/-! ### The parts of a text -/

/-- A text is split at a separator behind which there is no other. -/
theorem splitLast?_of_not_mem {separator : Char} {after : List Char} (isLast : separator ∉ after)
    (before : List Char) :
    splitLast? separator (before ++ separator :: after) = some (before, after) := by
  have passes : ∀ character ∈ after.reverse, (character != separator) = true := by
    intro character isThere
    rw [bne_iff_ne]
    rintro rfl
    exact isLast (List.mem_reverse.1 isThere)
  have backwards : (before ++ separator :: after).reverse
      = after.reverse ++ separator :: before.reverse := by
    rw [List.reverse_append, List.reverse_cons, List.append_assoc, List.singleton_append]
  simp only [splitLast?, backwards]
  rw [List.dropWhile_append_of_pos passes, List.takeWhile_append_of_pos passes,
    List.dropWhile_cons_of_neg (by simp), List.takeWhile_cons_of_neg (by simp)]
  simp only [List.reverse_reverse, List.append_nil]

/-- The decimal text of a port is read as that port. -/
theorem port?_decimal (port : UInt16) : port? (decimal port.toNat).toList = some port := by
  have bound := port.toNat_lt
  have noSign : ∀ rest, (decimal port.toNat).toList ≠ '+' :: rest := by
    intro rest signed
    have isThere : '+' ∈ (decimal port.toNat).toList := by
      rw [signed]
      exact List.mem_cons_self
    exact absurd (isDecimalDigit_of_mem_decimal isThere) (by decide)
  unfold port?
  split
  · rename_i rest signed
    exact absurd signed (noSign rest)
  · simp only [decimal?_decimal]
    rw [if_pos bound, UInt16.ofNat_toNat]

theorem colon_not_mem_decimal (number : Nat) : ':' ∉ (decimal number).toList := by
  intro isThere
  exact absurd (isDecimalDigit_of_mem_decimal isThere) (by decide)

/-! ### Hosts -/

/-- A host as it stands in the text of an address. -/
def shownHost (host : List Char) : List Char :=
  if ':' ∈ host then '[' :: (host ++ [']']) else host

theorem host?_bracketed {host : List Char} (notEmpty : host ≠ []) :
    host? ('[' :: (host ++ [']'])) = some host := by
  rw [host?, if_pos, List.dropLast_concat]
  rw [List.getLast?_concat, List.dropLast_concat]
  exact ⟨rfl, notEmpty⟩

/-- Without a colon and without a bracket in front, a host is read as it is. -/
theorem host?_plain {host : List Char} (notEmpty : host ≠ []) (noColon : ':' ∉ host)
    (noBracket : host.head? ≠ some '[') : host? host = some host := by
  unfold host?
  split
  · exact absurd rfl noBracket
  · rw [if_pos ⟨notEmpty, noColon⟩]

/-- Behind a bracket a host loses characters. -/
theorem host?_ne_of_bracket {host : List Char} (bracket : host.head? = some '[') :
    host? host ≠ some host := by
  obtain ⟨rest, rfl⟩ := List.head?_eq_some_iff.1 bracket
  intro same
  rw [host?] at same
  split at same
  · have lengths := congrArg List.length (Option.some.inj same)
    rw [List.length_dropLast, List.length_cons] at lengths
    omega
  · cases same

/-- No host that is read is empty. -/
theorem host?_ne_nil {written host : List Char} (isHost : host? written = some host) : host ≠ [] := by
  unfold host? at isHost
  split at isHost
  · split at isHost
    · rename_i both
      exact Option.some.inj isHost ▸ both.2
    · cases isHost
  · split at isHost
    · rename_i both
      exact Option.some.inj isHost ▸ both.1
    · cases isHost

/-! ### Texts and addresses -/

theorem toList_text (address : Address) :
    address.text.toList
      = shownHost address.host.toList ++ ':' :: (decimal address.port.toNat).toList := by
  simp only [text, shownHost, List.contains_iff_mem]
  split <;> simp

/-- A text is an address if its parts are a host and a port. -/
theorem ofText?_eq_some_iff {text : String} {address : Address} :
    ofText? text = some address ↔
      ∃ written portText host, splitLast? ':' text.toList = some (written, portText)
        ∧ host? written = some host ∧ port? portText = some address.port
        ∧ address.host = String.ofList host := by
  simp only [ofText?, Option.bind_eq_bind, Option.bind_eq_some_iff, Option.some.injEq]
  constructor
  · rintro ⟨⟨written, portText⟩, isSplit, host, isHost, port, isPort, rfl⟩
    exact ⟨written, portText, host, isSplit, isHost, isPort, rfl⟩
  · rintro ⟨written, portText, host, isSplit, isHost, isPort, sameHost⟩
    refine ⟨(written, portText), isSplit, host, isHost, address.port, isPort, ?_⟩
    rw [← sameHost]

theorem parse_eq_ok_iff {text : String} {address : Address} :
    parse text = .ok address ↔ ofText? text = some address := by
  rw [parse]
  split
  · rename_i found isFound
    rw [isFound, Except.ok.injEq, Option.some.injEq]
  · rename_i notFound
    rw [notFound]
    exact iff_of_false (fun isOk => nomatch isOk) (fun isSome => nomatch isSome)

/-- No address that is read has an empty host. -/
theorem host_ne_nil_of_parse {text : String} {address : Address} (read : parse text = .ok address) :
    address.host.toList ≠ [] := by
  obtain ⟨written, _, host, -, isHost, -, sameHost⟩ := ofText?_eq_some_iff.1 (parse_eq_ok_iff.1 read)
  rw [sameHost, String.toList_ofList]
  exact host?_ne_nil isHost

/-- The text of an address is read as its port and as whatever its host, as it is shown, is read as. -/
theorem ofText?_text (address : Address) :
    ofText? address.text
      = (host? (shownHost address.host.toList)).map fun host =>
          { address with host := String.ofList host } := by
  simp only [ofText?, toList_text, splitLast?_of_not_mem (colon_not_mem_decimal _),
    Option.bind_eq_bind, Option.bind_some, port?_decimal, Option.map_eq_bind]
  rfl

/-- The text of an address that was read from a text is read as that address exactly if its host has a
colon or does not begin with a bracket.  Otherwise what stands behind the bracket is read: it is refused,
or the host loses the bracket and the one that closes it. -/
theorem parse_text_iff {text : String} {address : Address} (read : parse text = .ok address) :
    (parse address.text = .ok address ↔
        ':' ∈ address.host.toList ∨ address.host.toList.head? ≠ some '[')
      ∧ (¬ (':' ∈ address.host.toList ∨ address.host.toList.head? ≠ some '[') →
        parse address.text = match host? address.host.toList with
          | some inner => .ok { address with host := String.ofList inner }
          | none => .error (.invalidAddress address.text)) := by
  have notEmpty := host_ne_nil_of_parse read
  have restored : ofText? address.text = some address ↔
      host? (shownHost address.host.toList) = some address.host.toList := by
    rw [ofText?_text, Option.map_eq_some_iff]
    constructor
    · rintro ⟨host, isHost, same⟩
      have sameHost : String.ofList host = address.host := congrArg Address.host same
      rw [isHost, ← sameHost, String.toList_ofList]
    · intro isHost
      exact ⟨_, isHost, by rw [String.ofList_toList]⟩
  constructor
  · rw [parse_eq_ok_iff, restored]
    by_cases colon : ':' ∈ address.host.toList
    · rw [shownHost, if_pos colon]
      exact iff_of_true (host?_bracketed notEmpty) (Or.inl colon)
    · rw [shownHost, if_neg colon]
      by_cases bracket : address.host.toList.head? = some '['
      · exact iff_of_false (host?_ne_of_bracket bracket) (not_or.2 ⟨colon, not_not_intro bracket⟩)
      · exact iff_of_true (host?_plain notEmpty colon bracket) (Or.inr bracket)
  · intro lost
    rw [not_or] at lost
    rw [parse, ofText?_text, shownHost, if_neg lost.1]
    cases host? address.host.toList <;> rfl

/-- A host in two pairs of brackets loses the second pair as well; one with a bracket too many is not read
again. -/
theorem parse_text_of_doubled_brackets :
    (parse "[[a]]:80" = .ok { host := "[a]", port := 80 }
        ∧ parse ({ host := "[a]", port := 80 } : Address).text ≠ .ok { host := "[a]", port := 80 })
      ∧ (parse "[[a]:80" = .ok { host := "[a", port := 80 }
        ∧ parse ({ host := "[a", port := 80 } : Address).text ≠ .ok { host := "[a", port := 80 }) := by
  have first : parse "[[a]]:80" = .ok { host := "[a]", port := 80 } := by decide
  have second : parse "[[a]:80" = .ok { host := "[a", port := 80 } := by decide
  refine ⟨⟨first, ?_⟩, second, ?_⟩
  · rw [ne_eq, (parse_text_iff first).1]
    decide
  · rw [ne_eq, (parse_text_iff second).1]
    decide

end Uplink.Address
