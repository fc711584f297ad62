import QueryWorkload.Duration
import QueryWorkload.Instant

set_option autoImplicit false

namespace QueryWorkload

open Text

inductive Refusal where
  | outOfBounds (what : String) (count total : Nat)
  | windowTooLarge (window range : Duration)
  | reversedRange (start stop : Instant)
  | unsupported (scenario backend : String)
  deriving DecidableEq, Repr

namespace Refusal

def message : Refusal → String
  | .outOfBounds what count total =>
    "requested " ++ numeral count ++ " " ++ what ++ " name(s), but the valid range is 1..=" ++
      numeral total ++ " (see --scale)"
  | .windowTooLarge window range =>
    "window of " ++ window.exact ++ " does not fit in the benchmark time range of " ++ range.exact
  | .reversedRange start stop =>
    "time range end " ++ stop.toOffsetText ++ " is before start " ++ start.toOffsetText
  | .unsupported scenario backend =>
    "scenario '" ++ scenario ++ "' is not supported by backend '" ++ backend ++ "'"

end Refusal

/-- Bounds that the program takes for granted. -/
inductive Fault where
  | productOverflow
  | pastCalendar
  | pastMemory
  | emptyFilter (column : String)
  | emptyMatch (key : String)
  | emptyMatcher (key : String)
  | noMetrics (what : String)
  deriving DecidableEq, Repr

namespace Fault

def message : Fault → String
  | .productOverflow => "attempt to multiply with overflow"
  | .pastCalendar => "`DateTime + TimeDelta` overflowed"
  | .pastMemory => "capacity overflow"
  | .emptyFilter column => "entity filter on '" ++ column ++ "' needs at least one name"
  | .emptyMatch key => "$match on '" ++ key ++ "' needs at least one name"
  | .emptyMatcher key => "tag matcher on '" ++ key ++ "' needs at least one value"
  | .noMetrics what => what ++ " over zero metrics"

/-- Memory has `2^63` octets, and a list of `count` items of `size` octets needs fewer. -/
def checkMemory (size count : Nat) : Except Fault Unit :=
  if count * size < signedLimit then .ok () else .error .pastMemory

end Fault

inductive Failure where
  | refused (why : Refusal)
  | fault (why : Fault)
  deriving DecidableEq, Repr

namespace Failure

def message : Failure → String
  | .refused why => why.message
  | .fault why => why.message

end Failure

instance : Coe Refusal Failure := ⟨.refused⟩
instance : Coe Fault Failure := ⟨.fault⟩

end QueryWorkload
