/-
Module: Uplink.Transport.SocketAddress
Purpose: Internet addresses with a port: reading their text and writing the canonical one.
Main exports: InternetAddress, InternetAddress.text, SocketAddress, SocketAddress.parse,
  Address.ofSocket
-/
import Uplink.Transport.Address

namespace Uplink

open Text

/-- An internet address: four octets, or eight groups of sixteen bits. -/
inductive InternetAddress where
  | version4 (octets : List Nat)
  | version6 (groups : List Nat)
deriving DecidableEq, Repr, Inhabited

/-- An internet address with a port. -/
structure SocketAddress where
  address : InternetAddress
  port : UInt16
deriving DecidableEq, Repr, Inhabited

namespace InternetAddress

/-- Texts with a separator between them. -/
def joined (separator : String) (parts : List String) : String :=
  separator.intercalate parts

/-- Four decimal numbers with points between them. -/
def octetsText (octets : List Nat) : String :=
  joined "." (octets.map decimal)

/-- Hexadecimal groups with colons between them. -/
def groupsText (groups : List Nat) : String :=
  joined ":" (groups.map (hexadecimal 1))

/-- The length of the run of zeros that a group list begins with. -/
def zeroRun (groups : List Nat) : Nat :=
  (groups.takeWhile (· == 0)).length

/-- Start and length of the longest run of zero groups, the first of several. -/
def longestZeroRun (groups : List Nat) : Nat × Nat :=
  (List.range groups.length).foldl
    (fun best start =>
      let length := zeroRun (groups.drop start)
      if best.2 < length then (start, length) else best)
    (0, 0)

/-- The canonical text: the longest run of at least two zero groups is written as two colons, and an
embedded version 4 address behind `::ffff:` keeps its decimal form. -/
def text : InternetAddress → String
  | version4 octets => octetsText octets
  | version6 groups =>
      match groups with
      | [0, 0, 0, 0, 0, 0xFFFF, high, low] =>
          "::ffff:" ++ octetsText [high / 256, high % 256, low / 256, low % 256]
      | _ =>
          let (start, length) := longestZeroRun groups
          if 1 < length then
            groupsText (groups.take start) ++ "::" ++ groupsText (groups.drop (start + length))
          else
            groupsText groups

/-- A number of at most `most` digits in a base, and what follows it.  Where zeros may not lead, a zero
must be the only digit. -/
def number? (base most limit : Nat) (zerosLead : Bool) (characters : List Char) :
    Option (Nat × List Char) :=
  let isDigit := fun (character : Char) =>
    match hexadecimalDigit? character.toNat with
    | some value => decide (value < base)
    | none => false
  let shown := characters.takeWhile isDigit
  let value := ofDigits base
    (shown.map fun character => (hexadecimalDigit? character.toNat).getD 0)
  if shown.isEmpty || decide (most < shown.length) || decide (limit < value)
      || (!zerosLead && decide (1 < shown.length) && shown.head? == some '0') then
    none
  else
    some (value, characters.dropWhile isDigit)

/-- Drop an expected character. -/
def expected? (character : Char) : List Char → Option (List Char)
  | first :: rest => if first = character then some rest else none
  | [] => none

/-- An octet behind a point. -/
def nextOctet? (characters : List Char) : Option (Nat × List Char) := do
  let rest ← expected? '.' characters
  number? 10 3 255 false rest

/-- Four octets with points between them. -/
def octets? (characters : List Char) : Option (List Nat × List Char) := do
  let (first, rest) ← number? 10 3 255 false characters
  let (second, rest) ← nextOctet? rest
  let (third, rest) ← nextOctet? rest
  let (fourth, rest) ← nextOctet? rest
  some ([first, second, third, fourth], rest)

/-- Read up to `room` groups behind the ones already read, which are kept in reverse.  Where two places
are left, four octets may take them and end the reading; the flag says that they did. -/
def readGroups (done : List Nat) : Nat → List Char → List Nat × Bool × List Char
  | 0, characters => (done.reverse, false, characters)
  | room + 1, characters =>
      let inside := if done.isEmpty then some characters else expected? ':' characters
      match if 0 < room then inside.bind octets? else none with
      | some ([first, second, third, fourth], rest) =>
          (((third * 256 + fourth) :: (first * 256 + second) :: done).reverse, true, rest)
      | _ =>
          match inside.bind (number? 16 4 0xFFFF true) with
          | some (group, rest) => readGroups (group :: done) room rest
          | none => (done.reverse, false, characters)

/-- Eight groups, or fewer with two colons in place of at least one zero group. -/
def groups? (characters : List Char) : Option (List Nat × List Char) :=
  let (head, endsInOctets, rest) := readGroups [] 8 characters
  if head.length = 8 then some (head, rest)
  else if endsInOctets then none
  else do
    let rest ← expected? ':' rest
    let rest ← expected? ':' rest
    let (tail, _, rest) := readGroups [] (7 - head.length) rest
    some (head ++ List.replicate (8 - head.length - tail.length) 0 ++ tail, rest)

end InternetAddress

namespace SocketAddress

open InternetAddress

/-- A port behind a colon, up to the end. -/
def portAtEnd? (characters : List Char) : Option UInt16 := do
  let rest ← expected? ':' characters
  let (port, rest) ← number? 10 characters.length 65535 true rest
  if rest.isEmpty then some (UInt16.ofNat port) else none

/-- A scope behind a percent sign, if there is one. -/
def afterScope? : List Char → Option (List Char)
  | '%' :: rest => (number? 10 rest.length 0xFFFFFFFF true rest).map (·.2)
  | characters => some characters

/-- The socket address written by a text: `a.b.c.d:port`, or a version 6 address in brackets. -/
def parse? (text : String) : Option SocketAddress :=
  match text.toList with
  | '[' :: rest => do
      let (groups, rest) ← groups? rest
      let rest ← afterScope? rest
      let rest ← expected? ']' rest
      let port ← portAtEnd? rest
      some { address := .version6 groups, port }
  | characters => do
      let (octets, rest) ← octets? characters
      let port ← portAtEnd? rest
      some { address := .version4 octets, port }

end SocketAddress

/-- The internet address that a whole text writes, if it is one. -/
def InternetAddress.parse? (text : String) : Option InternetAddress :=
  match InternetAddress.octets? text.toList with
  | some (octets, []) => some (.version4 octets)
  | _ =>
      match InternetAddress.groups? text.toList with
      | some (groups, []) => some (.version6 groups)
      | _ => none

/-- The address whose host is the canonical text of an internet address. -/
def Address.ofSocket (socket : SocketAddress) : Address :=
  { host := socket.address.text, port := socket.port }

end Uplink
