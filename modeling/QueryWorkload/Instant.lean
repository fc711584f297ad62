import QueryWorkload.Calendar

set_option autoImplicit false

namespace QueryWorkload

/-- Seconds count from 1970-01-01T00:00:00Z, without leap seconds. A leap second is held as the second
before it with a billion or more nanoseconds. -/
structure Instant where
  seconds : Int
  nanos : Nat
  deriving DecidableEq, Repr

namespace Instant

abbrev second : Nat := 1000000000

def ofSeconds (s : Int) : Instant :=
  ⟨s, 0⟩

def isLeap (t : Instant) : Bool :=
  second ≤ t.nanos

/-- The nanoseconds of the longest time between two instants: its milliseconds are a signed 64-bit
number. -/
def longest : Nat := 9223372036854775807000000

/-- From -262143-01-01 to +262142-12-31. -/
def inCalendar (t : Instant) : Bool :=
  -8334601228800 ≤ t.seconds && t.seconds ≤ 8210266876799

def before (a b : Instant) : Bool :=
  a.seconds < b.seconds || (a.seconds = b.seconds && a.nanos < b.nanos)

def ofNanos (n : Int) : Instant :=
  ⟨n / (second : Int), (n % (second : Int)).toNat⟩

def toNanos (t : Instant) : Int :=
  t.seconds * second + t.nanos

def clock (t : Instant) : Nat :=
  (t.seconds % 86400).toNat

/--
The nanoseconds from `b` to `a`. A leap second is counted when it lies between the two times of day.
-/
def since (a b : Instant) : Int :=
  let leap : Int :=
    if b.clock < a.clock && b.isLeap then second
    else if a.clock < b.clock && a.isLeap then -(second : Int)
    else 0
  a.toNanos - b.toNanos + leap

/--
The instant `n` nanoseconds later. A leap second is left at its near end by a whole second or more,
and by a fraction that reaches past it.
-/
def plus (t : Instant) (n : Int) : Instant :=
  let whole := n.tdiv second
  let part := n.tmod second
  if t.isLeap then
    if 0 < whole || (0 < part && 2 * (second : Int) ≤ t.nanos + part) then
      ofNanos (t.toNanos - second + n)
    else if whole < 0 then ofNanos (t.toNanos + n)
    else ⟨t.seconds, (t.nanos + part).toNat⟩
  else ofNanos (t.toNanos + n)

def toMillis (t : Instant) : Int :=
  t.seconds * 1000 + t.nanos / 1000000

def date (t : Instant) : Date :=
  Date.ofDays (t.seconds / 86400)

def timeText (t : Instant) : String :=
  Text.zeroPadded 2 (t.clock / 3600) ++ ":" ++ Text.zeroPadded 2 (t.clock % 3600 / 60) ++ ":" ++
    Text.zeroPadded 2 (t.clock % 60 + t.nanos / second)

def fractionText (t : Instant) : String :=
  let n := t.nanos % second
  if n = 0 then ""
  else if n % 1000000 = 0 then "." ++ Text.zeroPadded 3 (n / 1000000)
  else if n % 1000 = 0 then "." ++ Text.zeroPadded 6 (n / 1000)
  else "." ++ Text.zeroPadded 9 n

def dateTime (separator : String) (t : Instant) : String :=
  t.date.text ++ separator ++ t.timeText

def toSecondText (t : Instant) : String :=
  t.dateTime "T" ++ "Z"

def toText (t : Instant) : String :=
  t.dateTime "T" ++ t.fractionText ++ "Z"

def toOffsetText (t : Instant) : String :=
  t.dateTime "T" ++ t.fractionText ++ "+00:00"

end Instant

end QueryWorkload
