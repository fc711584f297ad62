import QueryWorkload.Entity
import QueryWorkload.Failure
import QueryWorkload.Json

set_option autoImplicit false

namespace QueryWorkload

structure Population where
  clusters : UInt64 := 100
  shardsPerCluster : UInt64 := 30
  replicasPerShard : UInt64 := 3
  groups : UInt64 := 100
  orgs : UInt64 := 100
  deriving DecidableEq, Repr

def product (a b : Nat) : Except Fault Nat :=
  if a * b < UInt64.size then .ok (a * b) else .error .productOverflow

def checkCount (what : String) (count total : Nat) : Except Refusal Unit :=
  if 1 ≤ count ∧ count ≤ total then .ok () else .error (.outOfBounds what count total)

namespace Population

def standard : Population := {}

def toJson (p : Population) : Json :=
  .obj
    [("clusters", .ofNat p.clusters.toNat), ("shards_per_cluster", .ofNat p.shardsPerCluster.toNat),
      ("replicas_per_shard", .ofNat p.replicasPerShard.toNat), ("groups", .ofNat p.groups.toNat),
      ("orgs", .ofNat p.orgs.toNat)]

abbrev standardClusterSize : Nat := 90

/-- The fewest clusters of the standard layout that hold `scale` hosts, and one at least. -/
def ofScale (scale : UInt64) : Population :=
  let clusters := max ((scale.toNat + (standardClusterSize - 1)) / standardClusterSize) 1
  { clusters := clusters.toUInt64, groups := clusters.toUInt64, orgs := clusters.toUInt64 }

def hostsPerCluster (p : Population) : Except Fault Nat :=
  product p.shardsPerCluster.toNat p.replicasPerShard.toNat

def hosts (p : Population) : Except Fault Nat := do
  product p.clusters.toNat (← p.hostsPerCluster)

/-- The number of names of a kind. Names of replica sets start again in every cluster. -/
def total (p : Population) : EntityKind → Except Fault Nat
  | .host => p.hosts
  | .cluster => .ok p.clusters.toNat
  | .replicaSet => .ok p.shardsPerCluster.toNat
  | .group => .ok p.groups.toNat
  | .org => .ok p.orgs.toNat

def check (p : Population) (kind : EntityKind) (count : Nat) : Except Failure Unit := do
  let total ← (p.total kind).mapError Failure.fault
  (checkCount kind.word count total).mapError Failure.refused

def checkTop (p : Population) (k : Nat) (primaries : Bool) : Except Failure Unit :=
  if primaries then
    (checkCount "primary" k p.shardsPerCluster.toNat).mapError Failure.refused
  else do
    let total ← p.hostsPerCluster.mapError Failure.fault
    (checkCount EntityKind.host.word k total).mapError Failure.refused

end Population

end QueryWorkload
