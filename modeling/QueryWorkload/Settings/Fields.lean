import QueryWorkload.Instant.Timestamp
import QueryWorkload.Settings

set_option autoImplicit false

namespace QueryWorkload

structure FieldReader (V : Type) where
  text : V → Option String
  number : V → Option UInt64
  flag : V → Option Bool
  choice : V → Option String
  absent : V → Option Bool
  members : List String → V → Option (List (String × V))

namespace FieldReader

variable {V α : Type}

def field (members : List (String × V)) (name : String) (read : V → Option α) (standard : α) :
    Option α :=
  match members.filter (·.1 = name) with
  | [] => some standard
  | [m] => read m.2
  | _ => none

def optional (r : FieldReader V) (read : V → Option α) (v : V) : Option (Option α) :=
  match r.absent v with
  | some true => some none
  | some false => (read v).map some
  | none => none

def timestamp (r : FieldReader V) (v : V) : Option Instant := do
  Timestamp.read (← r.text v)

def backend (r : FieldReader V) (v : V) : Option Backend := do
  Backend.ofName? (← r.choice v)

def populationNames : List String :=
  ["clusters", "shards_per_cluster", "replicas_per_shard", "groups", "orgs"]

def population (r : FieldReader V) (v : V) : Option Population := do
  let members ← r.members populationNames v
  let size (name : String) (standard : UInt64) : Option UInt64 :=
    field members name r.number standard
  some
    { clusters := ← size "clusters" Population.standard.clusters
      shardsPerCluster := ← size "shards_per_cluster" Population.standard.shardsPerCluster
      replicasPerShard := ← size "replicas_per_shard" Population.standard.replicasPerShard
      groups := ← size "groups" Population.standard.groups
      orgs := ← size "orgs" Population.standard.orgs }

def settingNames : List String :=
  ["use_case", "query_type", "format", "scale", "timestamp_start", "timestamp_end", "span",
    "queries", "seed", "workers", "clickhouse_use_tags", "universe"]

def settings (r : FieldReader V) (v : V) : Option Settings := do
  let members ← r.members settingNames v
  let standard := Settings.standard
  some
    { useCase := ← field members "use_case" r.text standard.useCase
      queryType := ← field members "query_type" r.text standard.queryType
      backend := ← field members "format" r.backend standard.backend
      scale := ← field members "scale" r.number standard.scale
      start := ← field members "timestamp_start" r.timestamp standard.start
      stop := ← field members "timestamp_end" r.timestamp standard.stop
      span := ← field members "span" (r.optional r.text) standard.span
      queries := ← field members "queries" r.number standard.queries
      seed := ← field members "seed" (r.optional r.number) standard.seed
      workers := ← field members "workers" r.number standard.workers
      separateTags := ← field members "clickhouse_use_tags" r.flag standard.separateTags
      population := ← field members "universe" (r.optional r.population) standard.population }

end FieldReader

end QueryWorkload
