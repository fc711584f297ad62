import QueryWorkload.Scenario

set_option autoImplicit false

namespace QueryWorkload

structure QueryType where
  name : String
  scenario : Scenario
  deriving Repr

structure UseCase where
  name : String
  queryTypes : List QueryType
  deriving Repr

namespace UseCase

def intel : UseCase :=
  { name := "intel"
    queryTypes :=
      [⟨"all-metrics-host-1-1", .allMetrics .hosts 1 (.ofHours 1)⟩,
        ⟨"all-metrics-host-1-48", .allMetrics .hosts 1 (.ofHours 48)⟩,
        ⟨"all-metrics-cluster-1-48", .allMetrics .clusters 1 (.ofHours 48)⟩,
        ⟨"last-point-primary-host", .lastPointPrimaries⟩,
        ⟨"last-point-host-30", .lastPoint 30⟩,
        ⟨"topk-hosts-cluster-1-10-1", .top false 10 (.ofHours 1)⟩,
        ⟨"topk-primaries-cluster-1-1-1", .top true 1 (.ofHours 1)⟩,
        ⟨"avg-metrics-host-10-1-1", .hourlyAverage (.exactly 10) .hosts 1 (.ofHours 144)⟩,
        ⟨"cluster-daily-average", .hourlyAverage .all .clusters 1 (.ofHours 24)⟩,
        ⟨"counter-rate-host-1-48", .counterRate 1 (.ofHours 48)⟩] }

def all : List UseCase :=
  [intel]

inductive LookupError where
  | unknownUseCase (name : String)
  | unknownQueryType (name : String) (useCase : UseCase)
  deriving Repr

def LookupError.message : LookupError → String
  | .unknownUseCase name =>
    "Unknown use case '" ++ name ++ "' (known: " ++ ", ".intercalate (all.map UseCase.name) ++ ")"
  | .unknownQueryType name useCase =>
    "Unknown query type '" ++ name ++ "' for use case '" ++ useCase.name ++ "' (known: " ++
      ", ".intercalate (useCase.queryTypes.map QueryType.name) ++ ")"

def lookup (useCase queryType : String) : Except LookupError Scenario :=
  match all.find? (·.name = useCase) with
  | none => .error (.unknownUseCase useCase)
  | some u =>
    match u.queryTypes.find? (·.name = queryType) with
    | none => .error (.unknownQueryType queryType u)
    | some t => .ok t.scenario

def listing (u : UseCase) : List String :=
  (u.name ++ ":") :: u.queryTypes.map fun t =>
    "  " ++ t.name ++ String.ofList (List.replicate (30 - t.name.length) ' ') ++ " " ++
      t.scenario.text

end UseCase

end QueryWorkload
