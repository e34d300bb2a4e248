/-
Module: Uplink.Time.Span
Purpose: Lengths of time as whole seconds and nanoseconds, with saturating arithmetic and their text.
Main exports: Span, Span.totalNanos, Span.add, Span.scale, Span.ofMillis, Span.text
-/
import Uplink.Text.Numeral

namespace Uplink

open Text

/-- A length of time: whole seconds in 64 bits and fewer than 10^9 nanoseconds. -/
structure Span where
  seconds : Nat
  nanos : Nat
  seconds_lt : seconds < 0x10000000000000000
  nanos_lt : nanos < 1000000000
deriving DecidableEq, Repr

namespace Span

/-- The empty span. -/
def zero : Span :=
  { seconds := 0, nanos := 0, seconds_lt := by decide, nanos_lt := by decide }

/-- The longest span. -/
def longest : Span :=
  { seconds := 0xFFFFFFFFFFFFFFFF, nanos := 999999999, seconds_lt := by decide, nanos_lt := by decide }

instance : Inhabited Span := ⟨zero⟩

/-- The number of nanoseconds in a span. -/
def totalNanos (span : Span) : Nat :=
  span.seconds * 1000000000 + span.nanos

/-- The span with the given parts, if both are in range. -/
def ofParts? (seconds nanos : Nat) : Option Span :=
  if inRange : seconds < 0x10000000000000000 ∧ nanos < 1000000000 then
    some { seconds, nanos, seconds_lt := inRange.1, nanos_lt := inRange.2 }
  else
    none

/-- Seconds and any number of nanoseconds, whole seconds of them carried; `longest` when the seconds do not
fit. -/
def carried (seconds nanos : Nat) : Span :=
  (ofParts? (seconds + nanos / 1000000000) (nanos % 1000000000)).getD longest

/-- A number of nanoseconds, or `longest` when it does not fit. -/
def ofNanos (total : Nat) : Span :=
  carried 0 total

/-- A 64-bit number of milliseconds. -/
def ofMillis (millis : UInt64) : Span :=
  carried (millis.toNat / 1000) (millis.toNat % 1000 * 1000000)

/-- The sum of two spans, or `longest` when it does not fit. -/
def add (first second : Span) : Span :=
  carried (first.seconds + second.seconds) (first.nanos + second.nanos)

/-- A span taken `factor` times.  The nanoseconds are multiplied on their own and what exceeds a second
is carried; `longest` stands for every product that does not fit. -/
def scale (span : Span) (factor : Nat) : Span :=
  carried (span.seconds * factor) (span.nanos * factor)

/-- Whole milliseconds in a span. -/
def wholeMillis (span : Span) : Nat :=
  span.totalNanos / 1000000

/-- Whole milliseconds as a 64-bit number, the greatest one when they do not fit. -/
def clampedMillis (span : Span) : UInt64 :=
  UInt64.ofNat (min span.wholeMillis 0xFFFFFFFFFFFFFFFF)

/-- Whether the first span is shorter than the second. -/
def shorter (first second : Span) : Bool :=
  decide (first.totalNanos < second.totalNanos)

/-- The longer of two spans. -/
def longer (first second : Span) : Span :=
  if first.shorter second then second else first

/-- A whole part, a fraction of `width` decimal places without its trailing zeros, and a unit. -/
def unitText (whole fraction width : Nat) (unit : String) : String :=
  let shown := (digits 10 fraction).map digitChar
  let padded := List.replicate (width - shown.length) '0' ++ shown
  let kept := (padded.reverse.dropWhile (· == '0')).reverse
  if kept.isEmpty then decimal whole ++ unit
  else decimal whole ++ "." ++ String.ofList kept ++ unit

/-- The text of a span: the largest unit among seconds, milliseconds, microseconds and nanoseconds
whose whole part is not zero, and the exact rest as a fraction. -/
def text (span : Span) : String :=
  if span.seconds ≠ 0 then unitText span.seconds span.nanos 9 "s"
  else if 1000000 ≤ span.nanos then unitText (span.nanos / 1000000) (span.nanos % 1000000) 6 "ms"
  else if 1000 ≤ span.nanos then unitText (span.nanos / 1000) (span.nanos % 1000) 3 "µs"
  else unitText span.nanos 0 0 "ns"

end Span

end Uplink
