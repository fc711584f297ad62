import QueryWorkload.Filling
import QueryWorkload.Scenario
import QueryWorkload.Sql.Tag

set_option autoImplicit false

namespace QueryWorkload.Sql

def table : String := measurement

def timeColumn : String := "created_at"

def lines (parts : List String) : String :=
  "\n".intercalate (parts.filter (· ≠ ""))

def timeRange (column : String) (w : TimeRange) : String :=
  "(" ++ column ++ " >= '" ++ w.start.dateTime " " ++ "') AND (" ++ column ++ " < '" ++
    w.stop.dateTime " " ++ "')"

def whereLine (conditions : List String) : String :=
  if conditions = [] then "" else "WHERE " ++ " AND ".intercalate conditions

def aggregates (function : String) (metrics : List String) : Except Fault (List String) :=
  if metrics = [] then .error (.noMetrics "aggregate")
  else .ok (metrics.map fun m => function ++ "(" ++ m ++ ") AS " ++ function ++ "_" ++ m)

def hourlyAverage (layout : TagLayout) (averages : List String) (entity time : String)
    (conditions : List String) : String :=
  lines
    ["SELECT",
      "    toStartOfHour(" ++ time ++ ") AS hour,",
      "    " ++ entity ++ ",",
      "    " ++ ", ".intercalate averages,
      "FROM " ++ table,
      layout.join table,
      whereLine conditions,
      "GROUP BY hour, " ++ entity,
      "ORDER BY hour ASC, " ++ entity ++ " ASC"]

def top (layout : TagLayout) (k : Nat) (host : String) (conditions : List String) : String :=
  let highest := "max_" ++ Metric.ranking
  lines
    ["SELECT",
      "    max(" ++ table ++ "." ++ Metric.ranking ++ ") AS " ++ highest ++ ",",
      "    " ++ host,
      "FROM " ++ table,
      layout.join table,
      whereLine conditions,
      "GROUP BY " ++ host,
      "ORDER BY " ++ highest ++ " DESC",
      "LIMIT " ++ Text.numeral k]

def counterRate (layout : TagLayout) (host time : String) (conditions : List String) : String :=
  lines
    ["SELECT",
      "    toStartOfMinute(" ++ time ++ ") AS minute,",
      "    " ++ host ++ ",",
      "    (max(" ++ Metric.counter ++ ") - min(" ++ Metric.counter ++ ")) / 60 AS rate_" ++
        Metric.counter,
      "FROM " ++ table,
      layout.join table,
      whereLine conditions,
      "GROUP BY minute, " ++ host,
      "ORDER BY minute ASC, " ++ host ++ " ASC"]

def lastPoint (layout : TagLayout) (conditions : List String) (primaries : Bool) : String :=
  let key := layout.seriesKey
  let primary := stateTag ++ " = " ++ quote primaryState
  match layout with
  | .separate =>
    lines (["SELECT *", "FROM", "(", "    SELECT *", "    FROM " ++ table,
        "    WHERE (" ++ key ++ ", " ++ timeColumn ++ ") IN", "    (",
        "        SELECT " ++ key ++ ", max(" ++ timeColumn ++ ")", "        FROM " ++ table] ++
      conditions.map ("        WHERE " ++ ·) ++
      ["        GROUP BY " ++ key, "    )", ") AS c", layout.join "c"] ++
      (if primaries then ["WHERE t." ++ primary] else []) ++
      ["ORDER BY t.hostname ASC, c." ++ timeColumn ++ " DESC"])
  | .inlined =>
    lines (["SELECT *", "FROM " ++ table,
        "WHERE (" ++ key ++ ", " ++ timeColumn ++ ") IN", "(",
        "    SELECT " ++ key ++ ", max(" ++ timeColumn ++ ")", "    FROM " ++ table] ++
      conditions.map ("    WHERE " ++ ·) ++
      ["    GROUP BY " ++ key, ")"] ++
      (if primaries then ["AND " ++ primary] else []) ++
      ["ORDER BY hostname ASC, " ++ timeColumn ++ " DESC"])

def backend : String := "ClickHouse"

section Builders

variable {σ : Type}

def put (label description statement : String) : Filling σ Unit :=
  Filling.put { label, description, payload := .sql table statement }

variable [WordSource σ] (layout : TagLayout)

def drawFilter (kind : EntityKind) (count : Nat) : Filling σ String := do
  let names ← Filling.sample (.names kind count)
  Filling.ofExcept ((layout.entityFilter kind.tag names).mapError Failure.fault)

def fillAllMetrics (scope : Scope) (count : Nat) (d : Duration) : Filling σ Unit := do
  let window ← Filling.sample (.window d)
  let filter ← drawFilter layout scope.kind count
  let statement := lines
    ["SELECT *", "FROM " ++ table, whereLine [filter, timeRange timeColumn window]]
  let label := backend ++ " all metric(s) for random " ++ Text.spacePadded 4 count ++ " " ++
    scope.kind.word ++ "s, duration: " ++ d.label
  put label (label ++ ": " ++ window.start.toSecondText) statement

/-- Metrics are looked up before anything is drawn. -/
def fillHourlyAverage (metrics : MetricSelection) (scope : Scope) (count : Nat) (d : Duration) :
    Filling σ Unit := do
  let metrics ← Filling.ofExcept (metrics.resolve.mapError Failure.refused)
  let window ← Filling.sample (.window d)
  let filter ← drawFilter layout scope.kind count
  let time := layout.dataColumn table timeColumn
  let averages ← Filling.ofExcept ((aggregates "avg" metrics).mapError Failure.fault)
  let statement := hourlyAverage layout averages (layout.tagColumn scope.kind.tag) time
    [filter, timeRange time window]
  let label := backend ++ " " ++ Text.numeral metrics.length ++ " metric(s), random " ++
    Text.spacePadded 4 count ++ " " ++ scope.kind.word ++ "s, random " ++ d.label ++ " by 1h"
  put label (label ++ ": " ++ window.start.toSecondText) statement

def fillTop (primaries : Bool) (k : Nat) (d : Duration) : Filling σ Unit := do
  let population ← Filling.sample .population
  Filling.ofExcept (population.checkTop k primaries)
  let window ← Filling.sample (.window d)
  let filter ← drawFilter layout .cluster 1
  let host := layout.tagColumn EntityKind.host.tag
  let range := timeRange (layout.dataColumn table timeColumn) window
  let state := layout.tagColumn stateTag ++ " = " ++ quote primaryState
  let conditions := if primaries then [filter, range, state] else [filter, range]
  let what := if primaries then "primaries" else "hosts"
  let label := backend ++ " top " ++ Text.numeral k ++ " " ++ what ++
    " for random cluster, duration: " ++ d.label
  put label (label ++ ": " ++ window.start.toSecondText) (top layout k host conditions)

def fillLastPoint (hosts : Nat) : Filling σ Unit := do
  let filter ← drawFilter layout .host hosts
  let label := backend ++ " last point for " ++ Text.numeral hosts ++ " hosts"
  put label label (lastPoint layout [filter] false)

def fillLastPointPrimaries : Filling σ Unit :=
  let label := backend ++ " last point per primary host"
  put label label (lastPoint layout [] true)

def fillCounterRate (hosts : Nat) (d : Duration) : Filling σ Unit := do
  let window ← Filling.sample (.window d)
  let filter ← drawFilter layout .host hosts
  let host := layout.tagColumn EntityKind.host.tag
  let time := layout.dataColumn table timeColumn
  let statement := counterRate layout host time [filter, timeRange time window]
  let label := backend ++ " counter rate for random " ++ Text.spacePadded 4 hosts ++
    " hosts, duration: " ++ d.label
  put label (label ++ ": " ++ window.start.toSecondText) statement

def fill : Scenario → Filling σ Unit
  | .allMetrics scope count d => fillAllMetrics layout scope count d
  | .hourlyAverage metrics scope count d => fillHourlyAverage layout metrics scope count d
  | .lastPoint hosts => fillLastPoint layout hosts
  | .lastPointPrimaries => fillLastPointPrimaries layout
  | .top primaries k d => fillTop layout primaries k d
  | .counterRate hosts d => fillCounterRate layout hosts d

end Builders

end QueryWorkload.Sql
