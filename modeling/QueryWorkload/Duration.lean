import QueryWorkload.Text.Numeral

set_option autoImplicit false

namespace QueryWorkload

open Text

structure Duration where
  nanos : Nat
  deriving DecidableEq, Repr

namespace Duration

abbrev nanosPerSecond : Nat := 1000000000

def ofSeconds (s : Nat) : Duration :=
  ⟨s * nanosPerSecond⟩

def ofHours (h : Nat) : Duration :=
  ofSeconds (h * 3600)

def ofParts (seconds nanos : Nat) : Duration :=
  ⟨seconds * nanosPerSecond + nanos⟩

def seconds (d : Duration) : Nat :=
  d.nanos / nanosPerSecond

def subsecond (d : Duration) : Nat :=
  d.nanos % nanosPerSecond

def subsecondLabel (n : Nat) : String :=
  if n % 1000000 = 0 then numeral (n / 1000000) ++ "ms"
  else if n % 1000 = 0 then numeral (n / 1000) ++ "µs"
  else numeral n ++ "ns"

def clockLabel (total : Nat) : String :=
  let h := total / 3600
  let m := total % 3600 / 60
  if 0 < h then numeral h ++ "h" ++ numeral m ++ "m"
  else if 0 < m then numeral m ++ "m"
  else ""

def secondsLabel (s n : Nat) : String :=
  if n = 0 then numeral s ++ "s" else numeral s ++ "." ++ fraction 9 n ++ "s"

/-- The form used in labels: every unit below the largest one is spelled out down to seconds. -/
def label (d : Duration) : String :=
  if d.nanos = 0 then "0s"
  else if d.seconds = 0 then subsecondLabel d.subsecond
  else clockLabel d.seconds ++ secondsLabel (d.seconds % 60) d.subsecond

def decimal (whole part places : Nat) (unit : String) : String :=
  if part = 0 then numeral whole ++ unit
  else numeral whole ++ "." ++ fraction places part ++ unit

/-- The form used in refusals: one number, in the largest unit with a whole part. -/
def exact (d : Duration) : String :=
  let n := d.subsecond
  if 0 < d.seconds then decimal d.seconds n 9 "s"
  else if 1000000 ≤ n then decimal (n / 1000000) (n % 1000000) 6 "ms"
  else if 1000 ≤ n then decimal (n / 1000) (n % 1000) 3 "µs"
  else decimal n 0 0 "ns"

def hours (d : Duration) : Float :=
  (d.seconds.toUInt64.toFloat + d.subsecond.toUInt64.toFloat / 1e9) / 3600.0

end Duration

end QueryWorkload
