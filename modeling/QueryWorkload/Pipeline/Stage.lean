import QueryWorkload.Pipeline.Document
import QueryWorkload.TimeRange
import QueryWorkload.Metric
import QueryWorkload.Entity

set_option autoImplicit false

namespace QueryWorkload.Pipeline

def tagPath (key : String) : String :=
  "tags." ++ key

def tagRef (key : String) : Value :=
  .str ("$tags." ++ key)

def fieldRef (metric : String) : Value :=
  .str ("$fields." ++ metric)

def nameCondition (key : String) (names : List String) : String × Value :=
  (tagPath key, Document.single "$in" (.list (names.map Value.str)))

def timeCondition (w : TimeRange) : String × Value :=
  ("time",
    Document.ofFields [("$gte", .date w.start.toMillis), ("$lt", .date w.stop.toMillis)])

def primaryCondition : String × Value :=
  (tagPath stateTag, .str primaryState)

def conditions (entity? : Option (String × List String)) (window? : Option TimeRange)
    (primaries : Bool) : List (String × Value) :=
  ("measurement", .str measurement) ::
    (entity?.toList.map (fun e => nameCondition e.1 e.2) ++ window?.toList.map timeCondition ++
      (if primaries then [primaryCondition] else []))

def matchStage (entity? : Option (String × List String)) (window? : Option TimeRange)
    (primaries : Bool) : Except Fault Document :=
  match entity? with
  | some (key, []) => .error (.emptyMatch key)
  | _ => .ok (.single "$match" (Document.ofFields (conditions entity? window? primaries)))

def truncateTime (unit : String) : Document :=
  .single "$dateTrunc" (.doc [("date", .str "$time"), ("unit", .str unit)])

def bucketKey (bucket unit tag : String) : Document :=
  .ofFields [(bucket, truncateTime unit), (tag, tagRef tag)]

def sortAscending (paths : List String) : Document :=
  .single "$sort" (Document.ofFields (paths.map fun p => (p, .int 1)))

def fieldAccumulator (operator metric : String) : Document :=
  .single operator (fieldRef metric)

end QueryWorkload.Pipeline
