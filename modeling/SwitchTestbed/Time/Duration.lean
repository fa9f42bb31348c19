/-!
# Lengths and points of time

* `Duration` : a length of time in nanoseconds;
* `Instant` : a point of a clock that only moves forward, in nanoseconds from its start;
* `lastInstant` : the last one that can be told.
-/

namespace SwitchTestbed

/-- A length of time in nanoseconds. -/
abbrev Duration := Nat

/-- A point of time in nanoseconds from the start of the clock. -/
abbrev Instant := Nat

namespace Duration

/-- Nanoseconds of a microsecond, a millisecond, a second, a minute and an hour. -/
def micro : Duration := 1000

@[inherit_doc micro] def milli : Duration := 1000 * micro

@[inherit_doc micro] def second : Duration := 1000 * milli

@[inherit_doc micro] def minute : Duration := 60 * second

@[inherit_doc micro] def hour : Duration := 60 * minute

/-- A whole number of milliseconds. -/
def ofMillis (n : Nat) : Duration := n * milli

/-- A whole number of seconds. -/
def ofSeconds (n : Nat) : Duration := n * second

/-- The whole milliseconds of a length of time. -/
def toMillis (d : Duration) : Nat := d / milli

end Duration

/-- The last point of time that can be told: its seconds are counted in 63 bits. -/
def lastInstant : Instant := Duration.ofSeconds 9223372036854775808 - 1

end SwitchTestbed
