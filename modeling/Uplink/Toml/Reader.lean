/-
Module: Uplink.Toml.Reader
Purpose: Reading TOML documents.
Main exports: Toml.value?, Toml.ofText?
-/
import Uplink.Toml.Scalar

namespace Uplink.Toml

/-! ### Keys -/

/-- How many parts a dotted key may have, and how many lists and sealed tables may be nested. -/
def nestingLimit : Nat := 79

/-- The parts of a dotted key, with blanks around each. -/
def keyParts (done : List String) : Nat → List Char → Option (List String × List Char)
  | 0, _ => none
  | fuel + 1, characters => do
      let (part, rest) ← bareOrQuoted? (afterBlanks characters)
      match afterBlanks rest with
      | '.' :: rest => keyParts (part :: done) fuel rest
      | rest => some ((part :: done).reverse, rest)

/-- A dotted key: the parts in front of the last one, and the last one. -/
def key? (characters : List Char) : Option (List String × String × List Char) := do
  let (parts, rest) ← keyParts [] nestingLimit characters
  let last ← parts.getLast?
  some (parts.dropLast, last, rest)

/-! ### Values -/

/-- What follows a comment's sign up to the end of its line. -/
def afterComment (characters : List Char) : List Char :=
  characters.dropWhile isPrintable

/-- Drop blanks, line ends and comments; a comment must reach a line end. -/
def afterTrivia? : Nat → List Char → Option (List Char)
  | 0, characters => some characters
  | fuel + 1, characters =>
      match afterWhite characters with
      | '#' :: rest => do
          let next ← afterNewline? (afterComment rest)
          afterTrivia? fuel next
      | rest => some rest

/-- Drop all trivia in front of a part of a list. -/
def afterAllTrivia? (characters : List Char) : Option (List Char) :=
  afterTrivia? (characters.length + 1) characters

mutual

/-- A value that nests at most `room` lists and sealed tables. -/
def value? : Nat → Nat → List Char → Option (Toml × List Char)
  | 0, _, _ => none
  | fuel + 1, room, characters =>
      match characters, room with
      | '[' :: rest, room + 1 => items? fuel room [] rest
      | '[' :: _, 0 => none
      | '\x7b' :: rest, room + 1 =>
          match afterBlanks rest with
          | '\x7d' :: rest => some (.sealedTable [], rest)
          | rest => pairs? fuel room [] rest
      | '\x7b' :: _, 0 => none
      | _, _ => scalar? characters

/-- The items of a list up to its closing bracket.  A comma may stand behind the last one. -/
def items? : Nat → Nat → List Toml → List Char → Option (Toml × List Char)
  | 0, _, _, _ => none
  | fuel + 1, room, done, characters => do
      match ← afterAllTrivia? characters with
      | ']' :: rest => some (.list done.reverse, rest)
      | start =>
          let (item, rest) ← value? fuel room start
          match ← afterAllTrivia? rest with
          | ',' :: rest => items? fuel room (item :: done) rest
          | ']' :: rest => some (.list (item :: done).reverse, rest)
          | _ => none

/-- The pairs of a sealed table up to its closing brace, all on one line and without a comma behind the
last one. -/
def pairs? : Nat → Nat → Entries → List Char → Option (Toml × List Char)
  | 0, _, _, _ => none
  | fuel + 1, room, done, characters => do
      let (path, key, rest) ← key? characters
      let rest ← expected? '=' rest
      let (item, rest) ← value? fuel room (afterBlanks rest)
      let entries ← assign key item path true done
      match afterBlanks rest with
      | ',' :: rest => pairs? fuel room entries rest
      | '\x7d' :: rest => some (.sealedTable entries, rest)
      | _ => none

end

/-! ### Documents -/

/-- A document that is being read: the root table, and the path of the latest header. -/
structure Document where
  root : Entries
  header : List String
deriving Inhabited

/-- Drop the rest of a line: blanks, a comment, and the line end or the end of the document. -/
def afterLine? (characters : List Char) : Option (List Char) :=
  let rest :=
    match afterBlanks characters with
    | '#' :: rest => afterComment rest
    | rest => rest
  match rest with
  | [] => some []
  | _ => afterNewline? rest

/-- A key and its value. -/
def pairLine? (document : Document) (characters : List Char) : Option (Document × List Char) := do
  let (path, key, rest) ← key? characters
  let rest ← expected? '=' rest
  let (item, rest) ← value? (2 * rest.length + 2) nestingLimit (afterBlanks rest)
  let root ← atHeader (assign key item path true) document.header document.root
  some ({ document with root }, rest)

/-- A header behind its opening brackets. -/
def headerLine? (change : String → Entries → Option Entries) (closing : Nat) (document : Document)
    (characters : List Char) : Option (Document × List Char) := do
  let (path, key, rest) ← key? characters
  let rest ← afterWord? (String.ofList (List.replicate closing ']')) rest
  let root ← openHeader change (path ++ [key]) document.root
  some ({ root, header := path ++ [key] }, rest)

/-- One line that holds something. -/
def line? (document : Document) : List Char → Option (Document × List Char)
  | '[' :: '[' :: rest => headerLine? append 2 document rest
  | '[' :: rest => headerLine? declare 1 document rest
  | characters => pairLine? document characters

/-- All lines. -/
def lines : Nat → Document → List Char → Option Document
  | 0, _, _ => none
  | fuel + 1, document, characters =>
      match afterBlanks characters with
      | [] => some document
      | '#' :: rest => do
          let rest ← afterLine? ('#' :: rest)
          lines fuel document rest
      | start =>
          match afterNewline? start with
          | some rest => lines fuel document rest
          | none => do
              let (next, rest) ← line? document start
              let rest ← afterLine? rest
              lines fuel next rest

/-- The root table of a document.  A byte order mark in front of it does not count. -/
def ofText? (text : String) : Option Entries := do
  let characters :=
    match text.toList with
    | '\ufeff' :: rest => rest
    | characters => characters
  let document ← lines (characters.length + 1) { root := [], header := [] } characters
  some document.root

end Uplink.Toml
