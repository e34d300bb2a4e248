/-
Module: Uplink.Toml.Scalar
Purpose: The scalars of TOML: quoted texts, integers, reals, truth values, dates and times.
Main exports: Toml.quoted?, Toml.bareOrQuoted?, Toml.number?, Toml.moment?, Toml.scalar?
-/
import Uplink.Text.Numeral
import Uplink.Toml.Value

namespace Uplink.Toml

open Text

/-- Space and tab. -/
def isBlank (character : Char) : Bool :=
  character == ' ' || character == '\t'

/-- Drop blanks. -/
def afterBlanks (characters : List Char) : List Char :=
  characters.dropWhile isBlank

/-- Tab and every character that is not a control character. -/
def isPrintable (character : Char) : Bool :=
  character == '\t' || (decide (0x20 ≤ character.toNat) && character.toNat != 0x7F)

/-- Drop a line end, a line feed with or without a carriage return in front of it. -/
def afterNewline? : List Char → Option (List Char)
  | '\n' :: rest => some rest
  | '\r' :: '\n' :: rest => some rest
  | _ => none

/-- Drop blanks and line ends. -/
def afterWhite : List Char → List Char
  | '\r' :: '\n' :: rest => afterWhite rest
  | first :: rest => if isBlank first || first == '\n' then afterWhite rest else first :: rest
  | [] => []

/-! ### Quoted texts -/

/-- The scalar value of hexadecimal digits. -/
def scalarOfHex? (digitList : List Char) : Option Char := do
  let values ← digitList.mapM fun digit => hexadecimalDigit? digit.toNat
  let code := ofDigits 16 values
  if code < 0xD800 ∨ (0xDFFF < code ∧ code < 0x110000) then some (Char.ofNat code) else none

/-- The character of a one-letter escape. -/
def shortEscape? (letter : Char) : Option Char :=
  if letter = '"' then some '"'
  else if letter = '\\' then some '\\'
  else if letter = 'b' then some (Char.ofNat 8)
  else if letter = 't' then some '\t'
  else if letter = 'n' then some '\n'
  else if letter = 'f' then some (Char.ofNat 12)
  else if letter = 'r' then some '\r'
  else none

/-- The character of an escape, behind its backslash, and what follows. -/
def escape? : List Char → Option (Char × List Char)
  | 'u' :: a :: b :: c :: d :: rest =>
      (scalarOfHex? [a, b, c, d]).map fun found => (found, rest)
  | 'U' :: a :: b :: c :: d :: e :: f :: g :: h :: rest =>
      (scalarOfHex? [a, b, c, d, e, f, g, h]).map fun found => (found, rest)
  | letter :: rest => (shortEscape? letter).map fun found => (found, rest)
  | [] => none

/-- A text in double quotes, behind its opening quote. -/
def basicBody (fuel : Nat) (done : List Char) : List Char → Option (String × List Char)
  | [] => none
  | '"' :: rest => some (String.ofList done.reverse, rest)
  | '\\' :: rest =>
      match fuel with
      | 0 => none
      | fuel + 1 => do
          let (character, rest) ← escape? rest
          basicBody fuel (character :: done) rest
  | character :: rest =>
      match fuel with
      | 0 => none
      | fuel + 1 =>
          if isPrintable character then basicBody fuel (character :: done) rest else none

/-- A text in single quotes, behind its opening quote. -/
def literalBody (done : List Char) : List Char → Option (String × List Char)
  | [] => none
  | '\'' :: rest => some (String.ofList done.reverse, rest)
  | character :: rest =>
      if isPrintable character then literalBody (character :: done) rest else none

/-- A text over several lines, behind its opening quotes.  One or two quotes belong to the text; three
to five end it, and those in front of the last three belong to it.  Where escapes are known, a backslash
at the end of a line joins it with the next character that is not white. -/
def linesBody (quote : Char) (escapes : Bool) :
    Nat → List Char → List Char → Option (String × List Char)
  | 0, _, _ => none
  | fuel + 1, done, characters =>
      match characters with
      | [] => none
      | first :: rest =>
          if first = quote then
            let run := (characters.takeWhile (· == quote)).length
            let after := characters.dropWhile (· == quote)
            if run < 3 then
              linesBody quote escapes fuel (List.replicate run quote ++ done) after
            else if run < 6 then
              some (String.ofList (List.replicate (run - 3) quote ++ done).reverse, after)
            else
              none
          else if first = '\\' ∧ escapes then
            match afterNewline? (afterBlanks rest) with
            | some joined => linesBody quote escapes fuel done (afterWhite joined)
            | none =>
                match escape? rest with
                | some (character, rest) => linesBody quote escapes fuel (character :: done) rest
                | none => none
          else
            match afterNewline? characters with
            | some rest => linesBody quote escapes fuel ('\n' :: done) rest
            | none =>
                if isPrintable first then linesBody quote escapes fuel (first :: done) rest
                else none

/-- The text over several lines behind three quotes; a line end right behind them does not count. -/
def lines? (quote : Char) (escapes : Bool) (characters : List Char) :
    Option (String × List Char) :=
  let start := (afterNewline? characters).getD characters
  linesBody quote escapes (start.length + 1) [] start

/-- A text in quotes on one line. -/
def quoted? : List Char → Option (String × List Char)
  | '"' :: rest => basicBody rest.length [] rest
  | '\'' :: rest => literalBody [] rest
  | _ => none

/-- A text in quotes of any kind. -/
def text? : List Char → Option (String × List Char)
  | '"' :: '"' :: '"' :: rest => lines? '"' true rest
  | '\'' :: '\'' :: '\'' :: rest => lines? '\'' false rest
  | characters => quoted? characters

/-- The characters of a key without quotes. -/
def isBare (character : Char) : Bool :=
  character.isAlphanum || character == '_' || character == '-'

/-- A key, with or without quotes. -/
def bareOrQuoted? (characters : List Char) : Option (String × List Char) :=
  match quoted? characters with
  | some found => some found
  | none =>
      let bare := characters.takeWhile isBare
      if bare.isEmpty then none
      else some (String.ofList bare, characters.dropWhile isBare)

/-! ### Numbers -/

/-- Digits after the first one.  An underscore stands between two digits. -/
def moreDigits (isDigit : Char → Bool) (done : List Char) :
    List Char → Option (List Char × List Char)
  | [] => some (done.reverse, [])
  | '_' :: digit :: rest => if isDigit digit then moreDigits isDigit (digit :: done) rest else none
  | character :: rest =>
      if isDigit character then moreDigits isDigit (character :: done) rest
      else if character = '_' then none
      else some (done.reverse, character :: rest)

/-- At least one digit. -/
def digitRun? (isDigit : Char → Bool) : List Char → Option (List Char × List Char)
  | [] => none
  | character :: rest => if isDigit character then moreDigits isDigit [character] rest else none

/-- The digits of a base up to sixteen. -/
def isDigitOf (base : Nat) (character : Char) : Bool :=
  match hexadecimalDigit? character.toNat with
  | some value => decide (value < base)
  | none => false

/-- The number of some digits. -/
def valueOf (base : Nat) (digitList : List Char) : Nat :=
  ofDigits base (digitList.map fun digit => (hexadecimalDigit? digit.toNat).getD 0)

/-- The base that a letter behind a zero announces. -/
def baseOf? (letter : Char) : Option Nat :=
  if letter = 'x' then some 16
  else if letter = 'o' then some 8
  else if letter = 'b' then some 2
  else none

/-- An integer that fits 64 bits with sign. -/
def fitting? (value : Int) : Option Toml :=
  if -0x8000000000000000 ≤ value ∧ value < 0x8000000000000000 then some (.integer value) else none

/-- The whole digits of a number in base ten; a leading zero stands alone. -/
def whole? : List Char → Option (List Char × List Char)
  | '0' :: rest => some (['0'], rest)
  | characters => digitRun? isDecimalDigit characters

/-- A sign. -/
def sign : List Char → Bool × List Char
  | '-' :: rest => (true, rest)
  | '+' :: rest => (false, rest)
  | characters => (false, characters)

/-- A fraction behind a point, if there is a point. -/
def fraction? : List Char → Option (List Char × List Char)
  | '.' :: rest => digitRun? isDecimalDigit rest
  | characters => some ([], characters)

/-- An exponent behind its letter, if there is one. -/
def exponent? (characters : List Char) : Option (Option Int × List Char) :=
  match characters with
  | letter :: rest =>
      if letter = 'e' ∨ letter = 'E' then do
        let (negative, unsigned) := sign rest
        let (digitList, rest) ← digitRun? isDecimalDigit unsigned
        let written : Int := valueOf 10 digitList
        some (some (if negative then -written else written), rest)
      else
        some (none, characters)
  | [] => some (none, [])

/-- Whether a decimal rounds to infinity: it reaches the midpoint above the greatest double. -/
def overflows (digitList : List Char) (exponent : Int) : Bool :=
  let significand := valueOf 10 digitList
  let magnitude : Int := ((digits 10 significand).length : Int) + exponent
  if significand = 0 ∨ magnitude < 300 then false
  else if 400 < magnitude then true
  else
    decide (Nat.pow 2 1024 - Nat.pow 2 970
      ≤ significand * Nat.pow 10 exponent.toNat / Nat.pow 10 (-exponent).toNat)

/-- Drop an expected word. -/
def afterWord? (word : String) (characters : List Char) : Option (List Char) :=
  if word.toList.isPrefixOf characters then some (characters.drop word.length) else none

/-- A number behind its sign.  A number with a fraction or an exponent is real; a positive real that
rounds to infinity is refused. -/
def unsigned? (negative : Bool) (characters : List Char) : Option (Toml × List Char) :=
  match afterWord? "inf" characters with
  | some rest => some (.real, rest)
  | none =>
      match afterWord? "nan" characters with
      | some rest => some (.real, rest)
      | none => do
          let (wholeDigits, afterWhole) ← whole? characters
          let (fractionDigits, afterFraction) ← fraction? afterWhole
          let (exponent, rest) ← exponent? afterFraction
          if fractionDigits.isEmpty ∧ exponent.isNone then
            let magnitude : Int := valueOf 10 wholeDigits
            let found ← fitting? (if negative then -magnitude else magnitude)
            some (found, rest)
          else if !negative ∧ overflows (wholeDigits ++ fractionDigits)
              (exponent.getD 0 - fractionDigits.length) then
            none
          else
            some (.real, rest)

/-- A number. -/
def number? (characters : List Char) : Option (Toml × List Char) :=
  match characters with
  | '0' :: letter :: rest =>
      match baseOf? letter with
      | some base => do
          let (digitList, rest) ← digitRun? (isDigitOf base) rest
          let found ← fitting? (valueOf base digitList)
          some (found, rest)
      | none => unsigned? false characters
  | _ =>
      let (negative, unsigned) := sign characters
      unsigned? negative unsigned

/-! ### Dates and times -/

/-- A number of exactly `width` digits within bounds. -/
def field? (width least greatest : Nat) (characters : List Char) : Option (Nat × List Char) :=
  let shown := characters.take width
  if shown.length = width ∧ shown.all isDecimalDigit then
    let value := valueOf 10 shown
    if least ≤ value ∧ value ≤ greatest then some (value, characters.drop width) else none
  else
    none

/-- Drop an expected character. -/
def expected? (character : Char) : List Char → Option (List Char)
  | first :: rest => if first = character then some rest else none
  | [] => none

/-- The number of days in a month. -/
def daysIn (year month : Nat) : Nat :=
  if month = 2 then
    if year % 4 = 0 ∧ (year % 100 ≠ 0 ∨ year % 400 = 0) then 29 else 28
  else if month ∈ [4, 6, 9, 11] then 30
  else 31

/-- A date: year, month and day. -/
def date? (characters : List Char) : Option (List Char) := do
  let (year, rest) ← field? 4 0 9999 characters
  let rest ← expected? '-' rest
  let (month, rest) ← field? 2 1 12 rest
  let rest ← expected? '-' rest
  let (_, rest) ← field? 2 1 (daysIn year month) rest
  some rest

/-- A fraction of a second, if a point and a digit start one. -/
def afterSecondFraction (characters : List Char) : List Char :=
  match characters with
  | '.' :: digit :: rest =>
      if isDecimalDigit digit then rest.dropWhile isDecimalDigit else characters
  | _ => characters

/-- A time of day: hour, minute and second, which may be a leap second. -/
def time? (characters : List Char) : Option (List Char) := do
  let (_, rest) ← field? 2 0 23 characters
  let rest ← expected? ':' rest
  let (_, rest) ← field? 2 0 59 rest
  let rest ← expected? ':' rest
  let (_, rest) ← field? 2 0 60 rest
  some (afterSecondFraction rest)

/-- An offset from universal time, if there is one. -/
def afterOffset? (characters : List Char) : Option (List Char) :=
  match characters with
  | first :: rest =>
      if first = 'Z' ∨ first = 'z' then some rest
      else if first = '+' ∨ first = '-' then do
        let (_, rest) ← field? 2 0 23 rest
        let rest ← expected? ':' rest
        let (_, rest) ← field? 2 0 59 rest
        some rest
      else
        some characters
  | [] => some []

/-- A date with a time of day behind it, if one follows. -/
def dateAndTime? (characters : List Char) : Option (List Char) := do
  let rest ← date? characters
  match rest with
  | delimiter :: behind =>
      if delimiter = 'T' ∨ delimiter = 't' ∨ delimiter = ' ' then
        match time? behind with
        | some afterTime => afterOffset? afterTime
        | none => some rest
      else
        some rest
  | [] => some []

/-- A date, a time, or both. -/
def moment? (characters : List Char) : Option (Toml × List Char) :=
  match dateAndTime? characters with
  | some rest => some (.moment, rest)
  | none => (time? characters).map fun rest => (.moment, rest)

/-- A value that holds no other values. -/
def scalar? (characters : List Char) : Option (Toml × List Char) :=
  match characters with
  | [] => none
  | first :: _ =>
      if first = '"' ∨ first = '\'' then
        (text? characters).map fun (found, rest) => (.text found, rest)
      else
        match afterWord? "true" characters with
        | some rest => some (.flag true, rest)
        | none =>
            match afterWord? "false" characters with
            | some rest => some (.flag false, rest)
            | none =>
                match moment? characters with
                | some found => some found
                | none => number? characters

end Uplink.Toml
