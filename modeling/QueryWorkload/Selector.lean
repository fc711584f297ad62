import QueryWorkload.Filling
import QueryWorkload.Scenario
import QueryWorkload.Signed

set_option autoImplicit false

namespace QueryWorkload.Selector

def seriesName (metric : String) : String :=
  measurement ++ "_" ++ metric

def braced (s : String) : String :=
  "\x7b" ++ s ++ "\x7d"

def tagMatcher (key : String) : List String → Except Fault String
  | [] => .error (.emptyMatcher key)
  | [value] => .ok (key ++ "='" ++ value ++ "'")
  | values => .ok (key ++ "=~'" ++ "|".intercalate values ++ "'")

def selectOne (metric tags : String) : String :=
  seriesName metric ++ braced tags

def selectNames (pattern tags : String) : String :=
  braced ("__name__=~'" ++ measurement ++ "_" ++ pattern ++ "', " ++ tags)

def select (metrics : MetricSelection) (tags : String) : Except Failure String :=
  if metrics.isAll then .ok (selectNames ".*" tags)
  else do
    match ← metrics.resolve.mapError Failure.refused with
    | [] => .error (Fault.noMetrics "selector")
    | [metric] => return selectOne metric tags
    | several => return selectNames ("(" ++ "|".intercalate several ++ ")") tags

def minuteStep : Nat := 60

def hourStep : Nat := 3600

/-- A window in whole seconds, of one at least. -/
def wholeStep (d : Duration) : Nat :=
  max d.seconds 1

/-- The first evaluation looks back over the first step of the window, and is not after its end. -/
def firstEvaluation (w : TimeRange) (step : Nat) : Int :=
  min (Signed.saturatingAdd w.start.seconds (Signed.ofNat step)) w.stop.seconds

def backend : String := "VictoriaMetrics"

section Builders

variable {σ : Type}

def put (label : String) (window : TimeRange) (expr : String) (step : Nat) : Filling σ Unit :=
  Filling.put
    { label
      description := label ++ ": " ++ window.start.toSecondText
      payload := .selector expr (firstEvaluation window step) window.stop.seconds step }

variable [WordSource σ]

def drawMatcher (kind : EntityKind) (count : Nat) : Filling σ String := do
  let names ← Filling.sample (.names kind count)
  Filling.ofExcept ((tagMatcher kind.tag names).mapError Failure.fault)

def fillAllMetrics (scope : Scope) (count : Nat) (d : Duration) : Filling σ Unit := do
  let window ← Filling.sample (.window d)
  let tags ← drawMatcher scope.kind count
  let expr ← Filling.ofExcept (select .all tags)
  let label := backend ++ " all metric(s) for random " ++ Text.spacePadded 4 count ++ " " ++
    scope.kind.word ++ "s, duration: " ++ d.label
  put label window expr minuteStep

/-- Metrics are looked up after the draws. -/
def fillHourlyAverage (metrics : MetricSelection) (scope : Scope) (count : Nat) (d : Duration) :
    Filling σ Unit := do
  let window ← Filling.sample (.window d)
  let tags ← drawMatcher scope.kind count
  let series ← Filling.ofExcept (select metrics tags)
  let expr := "avg(avg_over_time(" ++ series ++ "[1h])) by (__name__, " ++ scope.kind.tag ++ ")"
  let label := backend ++ " " ++ Text.numeral metrics.count ++ " metric(s), random " ++
    Text.spacePadded 4 count ++ " " ++ scope.kind.word ++ "s, random " ++ d.label ++ " by 1h"
  put label window expr hourStep

def fillTop (primaries : Bool) (k : Nat) (d : Duration) : Filling σ Unit := do
  let population ← Filling.sample .population
  Filling.ofExcept (population.checkTop k primaries)
  let window ← Filling.sample (.window d)
  let tags ← drawMatcher .cluster 1
  let tags := if primaries then tags ++ ", " ++ stateTag ++ "='" ++ primaryState ++ "'" else tags
  let expr := "topk(" ++ Text.numeral k ++ ", max by (" ++ EntityKind.host.tag ++
    ") (max_over_time(" ++ selectOne Metric.ranking tags ++ "[" ++ Text.numeral (wholeStep d) ++
    "s])))"
  let what := if primaries then "primaries" else "hosts"
  let label := backend ++ " top " ++ Text.numeral k ++ " " ++ what ++
    " for random cluster, duration: " ++ d.label
  put label window expr (wholeStep d)

def fillCounterRate (hosts : Nat) (d : Duration) : Filling σ Unit := do
  let window ← Filling.sample (.window d)
  let tags ← drawMatcher .host hosts
  let expr := "rate(" ++ selectOne Metric.counter tags ++ "[1m])"
  let label := backend ++ " counter rate for random " ++ Text.spacePadded 4 hosts ++
    " hosts, duration: " ++ d.label
  put label window expr minuteStep

/-- There is no selector for the latest readings. -/
def fill? : Scenario → Option (Filling σ Unit)
  | .allMetrics scope count d => some (fillAllMetrics scope count d)
  | .hourlyAverage metrics scope count d => some (fillHourlyAverage metrics scope count d)
  | .lastPoint _ => none
  | .lastPointPrimaries => none
  | .top primaries k d => some (fillTop primaries k d)
  | .counterRate hosts d => some (fillCounterRate hosts d)

end Builders

end QueryWorkload.Selector
