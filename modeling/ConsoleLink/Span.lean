/-!
# Spans of time

A span is a whole number of nanoseconds.  Besides the conversions this module
holds the text of a span: the largest unit that gives a nonzero whole part, and
a fraction without trailing zeros.

* `Span.ofMillis`, `Span.toMillis` convert to and from milliseconds.
* `Span.deadline?` is when a span is over, as far as a clock can show that time.
* `Span.text` writes a span, for instance `1.5s`, `120µs` or `0ns`.
-/

namespace ConsoleLink

/-- A length of time in nanoseconds. -/
abbrev Span := Nat

namespace Span

/-- Nanoseconds in a second. -/
def perSecond : Nat := 1000000000

/-- Nanoseconds in a millisecond. -/
def perMilli : Nat := 1000000

/-- Nanoseconds in a microsecond. -/
def perMicro : Nat := 1000

/-- A span of `ms` milliseconds. -/
def ofMillis (ms : Nat) : Span := ms * perMilli

/-- A span of `us` microseconds. -/
def ofMicros (us : Nat) : Span := us * perMicro

/-- The whole milliseconds of a span; what is left over is dropped. -/
def toMillis (s : Span) : Nat := s / perMilli

/-- Whole milliseconds survive the two conversions. -/
theorem toMillis_ofMillis (ms : Nat) : toMillis (ofMillis ms) = ms := by
  simp [toMillis, ofMillis, perMilli]

/-! ## Deadlines -/

/-- The first time that no clock shows: seconds are counted in 63 bits. -/
def clockEnd : Nat := Nat.pow 2 63 * perSecond

/-- When a span that begins now will be over; none if the clock cannot show that time.  It is
irreducible, or else the bound would be compared in unary. -/
@[irreducible]
def deadline? (now : Nat) (timeout : Span) : Option Nat :=
  if now + timeout < clockEnd then some (now + timeout) else none

theorem deadline?_eq_some_iff {now deadline : Nat} {timeout : Span} :
    deadline? now timeout = some deadline ↔
      now + timeout < clockEnd ∧ now + timeout = deadline := by
  simp [deadline?]

theorem deadline?_eq_none_iff {now : Nat} {timeout : Span} :
    deadline? now timeout = none ↔ clockEnd ≤ now + timeout := by
  simp [deadline?]

/-! ## Text -/

/-- `n` in decimal, with zeros in front until it has `width` digits. -/
def padded (width n : Nat) : String :=
  let digits := Nat.toDigits 10 n
  String.ofList (List.replicate (width - digits.length) '0' ++ digits)

/-- The digits of `text` without the zeros at its end. -/
def trimZeros (text : String) : String :=
  String.ofList (text.toList.reverse.dropWhile (· == '0')).reverse

/-- `whole` units and `rest` parts of a unit that is divided into `10 ^ places` parts. -/
def decimal (whole rest places : Nat) (unit : String) : String :=
  if rest = 0 then s!"{whole}{unit}"
  else s!"{whole}.{trimZeros (padded places rest)}{unit}"

/-- The text of a span, in the largest unit that gives a nonzero whole part. -/
def text (s : Span) : String :=
  if perSecond ≤ s then decimal (s / perSecond) (s % perSecond) 9 "s"
  else if perMilli ≤ s then decimal (s / perMilli) (s % perMilli) 6 "ms"
  else if perMicro ≤ s then decimal (s / perMicro) (s % perMicro) 3 "µs"
  else s!"{s}ns"

end Span

end ConsoleLink
