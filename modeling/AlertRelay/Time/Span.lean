import AlertRelay.Text.Digits

/-!
# Spans of time and instants

A `Span` is a length of time in seconds and nanoseconds, at most `2 ^ 64` seconds less a
nanosecond. Sums and multiples that would be longer become the longest span.

An `Instant` is the number of nanoseconds since an origin that all instants share. Its seconds must
fit a signed word of 64 bits, so adding a span to an instant may have no result. `Timers` say when a
timer rings that is set to an instant.
-/

namespace AlertRelay

/-- Nanoseconds in a second. -/
def nanosPerSecond : Nat := 1000000000

/-- Nanoseconds in a millisecond. -/
def nanosPerMilli : Nat := 1000000

/-- The number of seconds that no span reaches. -/
def secondsLimit : Nat := Nat.pow 2 64

/-- A length of time. -/
structure Span where
  seconds : Nat
  nanos : Nat
  seconds_lt : seconds < secondsLimit := by decide
  nanos_lt : nanos < nanosPerSecond := by decide
  deriving DecidableEq, Repr

namespace Span

/-- No time at all. -/
def zero : Span := ⟨0, 0, by decide, by decide⟩

/-- The longest span. -/
def longest : Span := ⟨secondsLimit - 1, nanosPerSecond - 1, by decide, by decide⟩

instance : Inhabited Span := ⟨zero⟩

/-- The length in nanoseconds. -/
def toNanos (d : Span) : Nat :=
  nanosPerSecond * d.seconds + d.nanos

/-- A span of the given seconds and nanoseconds, or the longest one if there are too many. -/
def clamp (seconds nanos : Nat) : Span :=
  if h : seconds < secondsLimit ∧ nanos < nanosPerSecond then ⟨seconds, nanos, h.1, h.2⟩
  else longest

/-- The span of that many nanoseconds, or the longest one. -/
def ofNanos (n : Nat) : Span :=
  clamp (n / nanosPerSecond) (n % nanosPerSecond)

/-- The span of that many whole seconds, or the longest one. -/
def ofSeconds (n : Nat) : Span :=
  clamp n 0

/-- The span of that many milliseconds, or the longest one. -/
def ofMillis (n : Nat) : Span :=
  clamp (n / 1000) (nanosPerMilli * (n % 1000))

/-- The sum of two spans, or the longest one. A full second of nanoseconds is carried over. -/
def add (a b : Span) : Span :=
  let nanos := a.nanos + b.nanos
  if nanos < nanosPerSecond then clamp (a.seconds + b.seconds) nanos
  else clamp (a.seconds + b.seconds + 1) (nanos - nanosPerSecond)

/-- A multiple of a span, or the longest one. Full seconds of nanoseconds are carried over. -/
def mul (a : Span) (k : Nat) : Span :=
  let nanos := a.nanos * k
  clamp (a.seconds * k + nanos / nanosPerSecond) (nanos % nanosPerSecond)

/-- The longer one of two spans. -/
def max (a b : Span) : Span :=
  if a.toNanos < b.toNanos then b else a

/-- The longest pause that a timer can be set to: thirty years of 365 days. -/
def longestPause : Span := ⟨946080000, 0, by decide, by decide⟩

/-- How long a pause of the given length lasts. -/
def pause (d : Span) : Span :=
  if longestPause.toNanos < d.toNanos then longestPause else d

/-- A number of units and the digits behind its point, without zeros at the end. `places` is the
number of digits that `fraction` has when it is padded. -/
def decimalChars (whole fraction places : Nat) : List Char :=
  let digits := ((Text.padded places fraction).reverse.dropWhile (· == '0')).reverse
  let point := if fraction = 0 then [] else '.' :: digits
  Nat.toDigits 10 whole ++ point

/-- The span in the largest unit of which it has at least one. -/
def text (d : Span) : String :=
  let chars :=
    if 0 < d.seconds then decimalChars d.seconds d.nanos 9 ++ ['s']
    else if 1000000 ≤ d.nanos then
      decimalChars (d.nanos / 1000000) (d.nanos % 1000000) 6 ++ ['m', 's']
    else if 1000 ≤ d.nanos then decimalChars (d.nanos / 1000) (d.nanos % 1000) 3 ++ ['µ', 's']
    else decimalChars d.nanos 0 0 ++ ['n', 's']
  String.ofList chars

end Span

/-- Nanoseconds since the origin. -/
abbrev Instant := Nat

namespace Instant

/-- The number of nanoseconds that no instant reaches. -/
def limit : Nat := Nat.pow 2 63 * nanosPerSecond

/-- The instant a span after another one, if there is such an instant. -/
def after? (t : Instant) (d : Span) : Option Instant :=
  if t + d.toNanos < limit then some (t + d.toNanos) else none

/-- The span from `t` to `u`, nothing if `u` is not later. -/
def spanTo (t u : Instant) : Span :=
  Span.ofNanos (u - t)

/-- The whole milliseconds since the origin. -/
def millis (t : Instant) : Nat :=
  t / nanosPerMilli

/-- The first instant of a whole millisecond at or after `t`. -/
def rounded (t : Instant) : Instant :=
  nanosPerMilli * ((t + (nanosPerMilli - 1)) / nanosPerMilli)

theorem le_rounded (t : Nat) : t ≤ rounded t := by
  unfold rounded nanosPerMilli
  omega

end Instant

/-- When a timer rings that is set to an instant: then or later, but never before. -/
structure Timers where
  ring : Instant → Instant
  le_ring : ∀ t, t ≤ ring t

namespace Timers

/-- Timers that ring at the instant that they are set to. -/
def exact : Timers := ⟨fun t => t, Nat.le_refl⟩

/-- Timers that ring on whole milliseconds, as those of the program do. -/
def millis : Timers := ⟨Instant.rounded, Instant.le_rounded⟩

end Timers

/-- The words of a failure to add a span to an instant. -/
def instantOverflow : String := "overflow when adding duration to instant"

end AlertRelay
