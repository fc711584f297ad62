import QueryWorkload.Metric
import QueryWorkload.Population
import QueryWorkload.TimeRange

set_option autoImplicit false

namespace QueryWorkload

inductive Scope where
  | hosts
  | clusters
  deriving DecidableEq, Repr

def Scope.kind : Scope → EntityKind
  | .hosts => .host
  | .clusters => .cluster

inductive Scenario where
  | allMetrics (scope : Scope) (count : Nat) (window : Duration)
  | hourlyAverage (metrics : MetricSelection) (scope : Scope) (count : Nat) (window : Duration)
  | lastPoint (hosts : Nat)
  | lastPointPrimaries
  | top (primaries : Bool) (k : Nat) (window : Duration)
  | counterRate (hosts : Nat) (window : Duration)
  deriving DecidableEq, Repr

namespace Scenario

def name : Scenario → String
  | .allMetrics .hosts _ _ => "AllMetricsForHosts"
  | .allMetrics .clusters _ _ => "AllMetricsForClusters"
  | .hourlyAverage _ .hosts _ _ => "HourlyAvgMetricsForHosts"
  | .hourlyAverage _ .clusters _ _ => "HourlyAvgMetricsForClusters"
  | .lastPoint _ => "LastPointForHosts"
  | .lastPointPrimaries => "LastPointPrimary"
  | .top false _ _ => "TopKHostsFromCluster"
  | .top true _ _ => "TopKPrimariesFromCluster"
  | .counterRate _ _ => "CounterRateHost"

def names : List String :=
  ["AllMetricsForHosts", "AllMetricsForClusters", "HourlyAvgMetricsForHosts",
    "HourlyAvgMetricsForClusters", "LastPointForHosts", "LastPointPrimary", "TopKHostsFromCluster",
    "TopKPrimariesFromCluster", "CounterRateHost"]

/-- A selection of as many metrics as there are counts as all of them. -/
def normalized : Scenario → Scenario
  | .hourlyAverage metrics scope count window =>
    .hourlyAverage metrics.normalized scope count window
  | s => s

def window? : Scenario → Option Duration
  | .allMetrics _ _ d => some d
  | .hourlyAverage _ _ _ d => some d
  | .lastPoint _ => none
  | .lastPointPrimaries => none
  | .top _ _ d => some d
  | .counterRate _ d => some d

def metrics? : Scenario → Option MetricSelection
  | .hourlyAverage metrics _ _ _ => some metrics
  | _ => none

def checkCounts (p : Population) : Scenario → Except Failure Unit
  | .allMetrics scope count _ => p.check scope.kind count
  | .hourlyAverage metrics scope count _ => do
    discard (metrics.resolve.mapError Failure.refused)
    p.check scope.kind count
  | .lastPoint hosts => p.check .host hosts
  | .lastPointPrimaries => .ok ()
  | .top primaries k _ => do
    p.check .cluster 1
    p.checkTop k primaries
  | .counterRate hosts _ => p.check .host hosts

def validate (s : Scenario) (p : Population) (range : TimeRange) : Except Failure Unit := do
  s.checkCounts p
  match s.window? with
  | some d => (range.checkWindow d).mapError Failure.refused
  | none => .ok ()

def scopeText : Scope → String
  | .hosts => "hosts"
  | .clusters => "clusters"

def text (s : Scenario) : String :=
  s.name ++ match s with
  | .allMetrics scope count d =>
    "(" ++ scopeText scope ++ "=" ++ Text.numeral count ++ ", duration=" ++ d.label ++ ")"
  | .hourlyAverage metrics scope count d =>
    "(metrics=" ++ Text.numeral metrics.count ++ ", " ++ scopeText scope ++ "=" ++
      Text.numeral count ++ ", duration=" ++ d.label ++ ")"
  | .lastPoint hosts => "(hosts=" ++ Text.numeral hosts ++ ")"
  | .lastPointPrimaries => ""
  | .top _ k d => "(k=" ++ Text.numeral k ++ ", duration=" ++ d.label ++ ")"
  | .counterRate hosts d =>
    "(hosts=" ++ Text.numeral hosts ++ ", duration=" ++ d.label ++ ")"

end Scenario

end QueryWorkload
