/-
Module: Uplink.Proofs.Transport.AddressGrammar
Purpose: The grammar of addresses, stated without the reader, and that the reader accepts exactly its texts.
Main exports: Address.splitLast?_eq_some_iff, Address.HostForm, Address.PortForm, Address.Written,
  Address.ofText?_eq_some_iff_written, Address.parse_iff_written
-/
import Uplink.Proofs.Transport.Address

namespace Uplink.Address

open Text

/-! ### The last separator -/

/-- A text is split at a separator exactly if no other stands behind it. -/
theorem splitLast?_eq_some_iff {separator : Char} {characters before after : List Char} :
    splitLast? separator characters = some (before, after) ↔
      characters = before ++ separator :: after ∧ separator ∉ after := by
  constructor
  · intro isSplit
    have whole := List.takeWhile_append_dropWhile (p := (· != separator)) (l := characters.reverse)
    simp only [splitLast?] at isSplit
    cases dropped : characters.reverse.dropWhile (· != separator) with
    | nil =>
        rw [dropped] at isSplit
        cases isSplit
    | cons first rest =>
        rw [dropped] at isSplit whole
        obtain ⟨isBefore, isAfter⟩ := Prod.mk.inj (Option.some.inj isSplit)
        have isSeparator : first = separator := by
          have stops := List.head?_dropWhile_not (· != separator) characters.reverse
          rw [dropped] at stops
          simpa using stops
        have backwards := congrArg List.reverse whole
        rw [List.reverse_append, List.reverse_cons, List.append_assoc, List.singleton_append,
          List.reverse_reverse, isBefore, isAfter, isSeparator] at backwards
        refine ⟨backwards.symm, ?_⟩
        rw [← isAfter, List.mem_reverse]
        intro isThere
        have passes := List.all_eq_true.1 List.all_takeWhile _ isThere
        rw [bne_self_eq_false] at passes
        cases passes
  · rintro ⟨rfl, isLast⟩
    exact splitLast?_of_not_mem isLast before

/-! ### The grammar -/

/-- A host and how it may be written: as it is, if it neither begins with a bracket nor holds a colon, or
between brackets, whatever it holds.  A host is not empty. -/
inductive HostForm : List Char → List Char → Prop where
  | bare {host : List Char} (notEmpty : host ≠ []) (noColon : ':' ∉ host)
      (noBracket : host.head? ≠ some '[') : HostForm host host
  | bracketed {host : List Char} (notEmpty : host ≠ []) : HostForm ('[' :: (host ++ [']'])) host

/-- A port and how it may be written: a numeral, with or without a plus sign. -/
inductive PortForm : List Char → UInt16 → Prop where
  | unsigned {digits : List Char} {port : UInt16} (numeral : Numeral digits port.toNat) :
      PortForm digits port
  | signed {digits : List Char} {port : UInt16} (numeral : Numeral digits port.toNat) :
      PortForm ('+' :: digits) port

/-- A text writes an address: its host, a colon and its port. -/
def Written (text : String) (address : Address) : Prop :=
  ∃ host port, text.toList = host ++ ':' :: port
    ∧ HostForm host address.host.toList ∧ PortForm port address.port

/-! ### Reading by the grammar -/

theorem host?_eq_some_iff {written host : List Char} :
    host? written = some host ↔ HostForm written host := by
  constructor
  · intro isHost
    unfold host? at isHost
    split at isHost
    · rename_i rest
      rw [Option.ite_none_right_eq_some, Option.some.injEq] at isHost
      obtain ⟨⟨closes, notEmpty⟩, isHost⟩ := isHost
      rw [← List.dropLast_append_getLast? _ closes, isHost]
      exact .bracketed (isHost ▸ notEmpty)
    · rename_i notBracket
      rw [Option.ite_none_right_eq_some, Option.some.injEq] at isHost
      obtain ⟨⟨notEmpty, noColon⟩, rfl⟩ := isHost
      refine .bare notEmpty noColon fun bracket => ?_
      obtain ⟨rest, isBracketed⟩ := List.head?_eq_some_iff.1 bracket
      exact notBracket rest isBracketed
  · rintro (⟨notEmpty, noColon, noBracket⟩ | notEmpty)
    · exact host?_plain notEmpty noColon noBracket
    · exact host?_bracketed notEmpty

/-- A number is the number of a port if it fits into sixteen bits. -/
theorem ofNumber_eq_some_iff {number : Option Nat} {port : UInt16} :
    (match number with
      | some number => if number < 0x10000 then some (UInt16.ofNat number) else none
      | none => none) = some port ↔ number = some port.toNat := by
  cases number with
  | none => exact iff_of_false nofun nofun
  | some number =>
      rw [Option.ite_none_right_eq_some, Option.some.injEq, Option.some.injEq]
      constructor
      · rintro ⟨fits, rfl⟩
        exact (UInt16.toNat_ofNat_of_lt fits).symm
      · rintro rfl
        exact ⟨port.toNat_lt, UInt16.ofNat_toNat⟩

theorem port?_eq_some_iff {written : List Char} {port : UInt16} :
    port? written = some port ↔ PortForm written port := by
  constructor
  · intro isPort
    unfold port? at isPort
    split at isPort
    · exact .signed (decimal?_eq_some_iff.1 (ofNumber_eq_some_iff.1 isPort))
    · exact .unsigned (decimal?_eq_some_iff.1 (ofNumber_eq_some_iff.1 isPort))
  · rintro (numeral | numeral)
    · have noSign : ∀ rest, written ≠ '+' :: rest := by
        rintro rest rfl
        exact absurd (numeral.isDecimalDigit '+' List.mem_cons_self) (by decide)
      unfold port?
      split
      · rename_i rest
        exact absurd rfl (noSign rest)
      · exact ofNumber_eq_some_iff.2 (decimal?_eq_some_iff.2 numeral)
    · exact ofNumber_eq_some_iff.2 (decimal?_eq_some_iff.2 numeral)

/-- No port is written with a colon. -/
theorem PortForm.colon_not_mem {written : List Char} {port : UInt16} (form : PortForm written port) :
    ':' ∉ written := by
  have noDigit : isDecimalDigit ':' = false := by decide
  rcases form with numeral | numeral
  · intro isThere
    rw [numeral.isDecimalDigit _ isThere] at noDigit
    cases noDigit
  · intro isThere
    rcases List.mem_cons.1 isThere with isSign | isThere
    · cases isSign
    · rw [numeral.isDecimalDigit _ isThere] at noDigit
      cases noDigit

/-- A text is an address if the grammar writes that address with it. -/
theorem ofText?_eq_some_iff_written {text : String} {address : Address} :
    ofText? text = some address ↔ Written text address := by
  rw [ofText?_eq_some_iff]
  constructor
  · rintro ⟨written, portText, host, isSplit, isHost, isPort, sameHost⟩
    refine ⟨written, portText, (splitLast?_eq_some_iff.1 isSplit).1, ?_, port?_eq_some_iff.1 isPort⟩
    rw [sameHost, String.toList_ofList]
    exact host?_eq_some_iff.1 isHost
  · rintro ⟨written, portText, isText, isHost, isPort⟩
    refine ⟨written, portText, address.host.toList, ?_, host?_eq_some_iff.2 isHost,
      port?_eq_some_iff.2 isPort, String.ofList_toList.symm⟩
    exact splitLast?_eq_some_iff.2 ⟨isText, isPort.colon_not_mem⟩

/-- For every text: it is read as an address exactly if it writes that address, with a host, a colon and a
port behind it; and a text that writes no address is refused, and reported unchanged. -/
theorem parse_iff_written (text : String) :
    (∀ address, parse text = .ok address ↔
        ∃ written portText, text.toList = written ++ ':' :: portText
          ∧ HostForm written address.host.toList ∧ PortForm portText address.port)
      ∧ ∀ error, parse text = .error error ↔
          error = .invalidAddress text ∧ ¬ ∃ address, Written text address := by
  constructor
  · intro address
    exact parse_eq_ok_iff.trans ofText?_eq_some_iff_written
  · intro error
    cases isText : ofText? text with
    | some address =>
        have isWritten : Written text address := ofText?_eq_some_iff_written.1 isText
        have accepted : parse text = .ok address := parse_eq_ok_iff.2 isText
        rw [accepted]
        exact iff_of_false nofun fun refused => refused.2 ⟨address, isWritten⟩
    | none =>
        have refused : parse text = .error (.invalidAddress text) := by rw [parse, isText]
        have unwritten : ¬ ∃ address, Written text address := by
          rintro ⟨address, isWritten⟩
          rw [ofText?_eq_some_iff_written.2 isWritten] at isText
          cases isText
        rw [refused, Except.error.injEq]
        exact ⟨fun same => ⟨same.symm, unwritten⟩, fun both => both.1.symm⟩

example : parse "[[::1]:+0080" = .ok { host := "[::1", port := 80 } ∧
    parse "[::1]:65536" = .error (.invalidAddress "[::1]:65536") := by
  decide

end Uplink.Address
