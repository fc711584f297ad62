import QueryWorkload.Backend
import QueryWorkload.Duration.Span

set_option autoImplicit false

namespace QueryWorkload

structure Settings where
  useCase : String := "intel"
  queryType : String := "all-metrics-host-1-1"
  backend : Backend := .clickHouse
  scale : UInt64 := 9000
  start : Instant := .ofSeconds 1451606400
  stop : Instant := .ofSeconds 1452211200
  span : Option String := none
  queries : UInt64 := 1000
  seed : Option UInt64 := none
  workers : UInt64 := 1
  separateTags : Bool := true
  population : Option Population := none
  deriving DecidableEq, Repr

namespace Settings

def standard : Settings := {}

inductive Error where
  | noQueries
  | noWorkers
  | noScale
  | badSpan (cause : Span.Error)
  | spanTooLong
  | spanPastCalendar
  | badRange (cause : Refusal)
  deriving DecidableEq, Repr

def Error.message : Error → String
  | .noQueries => "queries must be at least 1"
  | .noWorkers => "workers must be at least 1"
  | .noScale => "scale must be at least 1"
  | .badSpan cause => "Invalid span: " ++ cause.message
  | .spanTooLong =>
    "Span out of range: Source duration value is out of range for the target type"
  | .spanPastCalendar => "Span out of range"
  | .badRange cause => cause.message

/-- The longest span in seconds: its milliseconds are a signed 64-bit number. -/
def longestSpan : Nat := 9223372036854775

def rangeEnd (c : Settings) : Except Error Instant :=
  match c.span with
  | none => .ok c.stop
  | some text =>
    match Span.read text with
    | .error cause => .error (.badSpan cause)
    | .ok d =>
      let stop := c.start.plus d.nanos
      if longestSpan < d.seconds then .error .spanTooLong
      else if stop.inCalendar then .ok stop
      else .error .spanPastCalendar

def range (c : Settings) : Except Error TimeRange := do
  (TimeRange.make c.start (← c.rangeEnd)).mapError Error.badRange

def fleet (c : Settings) : Population :=
  c.population.getD (.ofScale c.scale)

inductive Warning where
  | scaleUnused (scale : UInt64)
  | idleWorkers (workers queries : UInt64)
  | layoutUnused (backend : Backend)
  deriving DecidableEq, Repr

def Warning.message : Warning → String
  | .scaleUnused scale =>
    "Both scale (" ++ Text.numeral scale.toNat ++
      ") and an explicit universe are set; using the universe"
  | .idleWorkers workers queries =>
    Text.numeral workers.toNat ++ " workers for " ++ Text.numeral queries.toNat ++
      " queries; some workers will be idle"
  | .layoutUnused backend => "clickhouse_use_tags has no effect with format " ++ backend.name

def warnings (c : Settings) : List Warning :=
  (if c.population.isSome ∧ c.scale ≠ standard.scale then [.scaleUnused c.scale] else []) ++
    (if c.queries < c.workers then [.idleWorkers c.workers c.queries] else []) ++
    (if c.backend ≠ .clickHouse ∧ ¬ c.separateTags then [.layoutUnused c.backend] else [])

def validate (c : Settings) : Except Error (List Warning) :=
  if c.queries = 0 then .error .noQueries
  else if c.workers = 0 then .error .noWorkers
  else if c.population = none ∧ c.scale = 0 then .error .noScale
  else c.range.map fun _ => c.warnings

end Settings

end QueryWorkload
