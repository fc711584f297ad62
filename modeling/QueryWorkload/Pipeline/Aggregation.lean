import QueryWorkload.Pipeline.Stage
import QueryWorkload.Filling
import QueryWorkload.Scenario
import QueryWorkload.Signed

set_option autoImplicit false

namespace QueryWorkload.Pipeline

def collection : String := "point_data"

def groupStage (fields : List (String × Value)) : Document :=
  .single "$group" (Document.ofFields fields)

def sortBy (path : String) (direction : Int) : Document :=
  .single "$sort" (Document.single path (.int direction))

def hourlyAverage (tag : String) (metrics : List String) : List Document :=
  [groupStage (("_id", bucketKey "hour" "hour" tag) ::
      metrics.map fun m => ("avg_" ++ m, fieldAccumulator "$avg" m)),
    sortAscending ["_id.hour", "_id." ++ tag]]

def lastPoint : List Document :=
  [sortBy "time" (-1),
    groupStage
      [("_id", tagRef EntityKind.host.tag), ("doc", Document.single "$first" (.str "$$ROOT"))],
    sortBy "_id" 1]

def top (k : Nat) : List Document :=
  let cluster := EntityKind.cluster.tag
  let host := EntityKind.host.tag
  let highest := "max_" ++ Metric.ranking
  let hostOfCluster : Document :=
    .ofFields [(cluster, tagRef cluster), (host, tagRef host)]
  let kept : Document :=
    .ofFields [(host, .str ("$_id." ++ host)), (highest, .str ("$" ++ highest))]
  let highestFirst : Document :=
    .ofFields
      [("n", .int (Signed.ofNat k)), ("sortBy", Document.single highest (.int (-1))), ("output", kept)]
  [groupStage [("_id", hostOfCluster), (highest, fieldAccumulator "$max" Metric.ranking)],
    groupStage [("_id", .str ("$_id." ++ cluster)), ("top", Document.single "$topN" highestFirst)]]

def counterRate : List Document :=
  let host := EntityKind.host.tag
  let highest := "max_" ++ Metric.counter
  let lowest := "min_" ++ Metric.counter
  let difference : Document :=
    .single "$subtract" (.list [.str ("$" ++ highest), .str ("$" ++ lowest)])
  let rate : Document := .single "$divide" (.list [difference, .int 60])
  [groupStage
      [("_id", bucketKey "minute" "minute" host),
        (highest, fieldAccumulator "$max" Metric.counter),
        (lowest, fieldAccumulator "$min" Metric.counter)],
    .single "$project" (Document.ofFields [("_id", .int 1), ("rate_" ++ Metric.counter, rate)]),
    sortAscending ["_id.minute", "_id." ++ host]]

def allMetrics : List Document :=
  [.single "$project"
      (Document.ofFields [("_id", .int 0), ("time", .int 1), ("tags", .int 1), ("fields", .int 1)]),
    sortBy "time" 1]

def backend : String := "Mongo"

def described (label : String) (window : TimeRange) : String :=
  label ++ ": " ++ window.start.toSecondText

def checkMetrics (metrics : List String) : Except Fault Unit :=
  if metrics = [] then .error (.noMetrics "hourly average") else .ok ()

section Builders

variable {σ : Type}

def put (label description : String) (stages : List Document) : Filling σ Unit :=
  Filling.put { label, description, payload := .pipeline collection stages }

def matching (entity? : Option (String × List String)) (window? : Option TimeRange)
    (primaries : Bool) : Filling σ Document :=
  Filling.ofExcept ((matchStage entity? window? primaries).mapError Failure.fault)

variable [WordSource σ]

def fillAllMetrics (scope : Scope) (count : Nat) (d : Duration) : Filling σ Unit := do
  let window ← Filling.sample (.window d)
  let names ← Filling.sample (.names scope.kind count)
  let first ← matching (some (scope.kind.tag, names)) (some window) false
  let label := backend ++ " all metric(s) for random " ++ Text.spacePadded 4 count ++ " " ++
    scope.kind.word ++ "s, duration: " ++ d.label
  put label (described label window) (first :: allMetrics)

/-- Metrics are looked up before anything is drawn. -/
def fillHourlyAverage (metrics : MetricSelection) (scope : Scope) (count : Nat) (d : Duration) :
    Filling σ Unit := do
  let metrics ← Filling.ofExcept (metrics.resolve.mapError Failure.refused)
  Filling.ofExcept ((checkMetrics metrics).mapError Failure.fault)
  let window ← Filling.sample (.window d)
  let names ← Filling.sample (.names scope.kind count)
  let tag := scope.kind.tag
  let first ← matching (some (tag, names)) (some window) false
  let label := backend ++ " " ++ Text.numeral metrics.length ++ " metric(s), random " ++
    Text.spacePadded 4 count ++ " " ++ scope.kind.word ++ "s, random " ++ d.label ++ " by 1h"
  put label (described label window) (first :: hourlyAverage tag metrics)

def fillTop (primaries : Bool) (k : Nat) (d : Duration) : Filling σ Unit := do
  let population ← Filling.sample .population
  Filling.ofExcept (population.checkTop k primaries)
  let window ← Filling.sample (.window d)
  let clusters ← Filling.sample (.names .cluster 1)
  let first ← matching (some (EntityKind.cluster.tag, clusters)) (some window) primaries
  let what := if primaries then "primaries" else "hosts"
  let label := backend ++ " top " ++ Text.numeral k ++ " " ++ what ++
    " for random cluster, duration: " ++ d.label
  put label (described label window) (first :: top k)

def fillLastPoint (hosts : Nat) : Filling σ Unit := do
  let names ← Filling.sample (.names .host hosts)
  let first ← matching (some (EntityKind.host.tag, names)) none false
  let label := backend ++ " last point for " ++ Text.numeral hosts ++ " hosts"
  put label label (first :: lastPoint)

def fillLastPointPrimaries : Filling σ Unit := do
  let first ← matching none none true
  let label := backend ++ " last point per primary host"
  put label label (first :: lastPoint)

def fillCounterRate (hosts : Nat) (d : Duration) : Filling σ Unit := do
  let window ← Filling.sample (.window d)
  let names ← Filling.sample (.names .host hosts)
  let first ← matching (some (EntityKind.host.tag, names)) (some window) false
  let label := backend ++ " counter rate for random " ++ Text.spacePadded 4 hosts ++
    " hosts, duration: " ++ d.label
  put label (described label window) (first :: counterRate)

def fill : Scenario → Filling σ Unit
  | .allMetrics scope count d => fillAllMetrics scope count d
  | .hourlyAverage metrics scope count d => fillHourlyAverage metrics scope count d
  | .lastPoint hosts => fillLastPoint hosts
  | .lastPointPrimaries => fillLastPointPrimaries
  | .top primaries k d => fillTop primaries k d
  | .counterRate hosts d => fillCounterRate hosts d

end Builders

end QueryWorkload.Pipeline
