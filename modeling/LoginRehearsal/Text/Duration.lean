import LoginRehearsal.Text.Numeral

/-!
# Durations

Spans of time in whole nanoseconds, and the short text in which a report shows them: in the largest of
the units s, ms, µs and ns that gives a whole part, without trailing zeros.
-/
namespace LoginRehearsal

/-- A span of time. -/
structure Duration where
  nanos : Nat
deriving DecidableEq, Repr

namespace Duration

def ofSeconds (n : Nat) : Duration := ⟨n * 1000000000⟩

def ofMillis (n : Nat) : Duration := ⟨n * 1000000⟩

/-- The whole seconds in a span. -/
def seconds (d : Duration) : Nat := d.nanos / 1000000000

/-- The whole milliseconds in a span. -/
def millis (d : Duration) : Nat := d.nanos / 1000000

/-- The milliseconds of a span, a part of one counting whole. -/
def millisUp (d : Duration) : Nat := (d.nanos + 999999) / 1000000

/-- The longest span that a timer takes: thirty years of 365 days. -/
def longestTimer : Duration := .ofSeconds 946080000

/-- The milliseconds that a timer set to a span runs. -/
def timerMillis (d : Duration) : Nat := min d.millisUp longestTimer.millis

/-- The digits of a fraction `part / 10 ^ places`, without trailing zeros. -/
def fractionDigits : Nat → Nat → List Char
  | 0, _ => []
  | places + 1, part =>
    if part = 0 then []
    else Nat.digitChar (part / Nat.pow 10 places) :: fractionDigits places (part % Nat.pow 10 places)

/-- A count of `10 ^ places` parts, in the unit that holds so many. -/
def inUnit (places : Nat) (unit : String) (parts : Nat) : String :=
  let fraction := fractionDigits places (parts % Nat.pow 10 places)
  decimal (parts / Nat.pow 10 places) ++
    (if fraction.isEmpty then "" else "." ++ String.ofList fraction) ++ unit

/-- The text of a span. -/
def text (d : Duration) : String :=
  if 1000000000 ≤ d.nanos then inUnit 9 "s" d.nanos
  else if 1000000 ≤ d.nanos then inUnit 6 "ms" d.nanos
  else if 1000 ≤ d.nanos then inUnit 3 "µs" d.nanos
  else inUnit 0 "ns" d.nanos

end Duration
end LoginRehearsal
