import QueryWorkload.Proofs.Workers

set_option autoImplicit false

namespace QueryWorkload

open Outcome

theorem product_eq_error {a b : Nat} {why : Fault} :
    product a b = .error why ↔ why = .productOverflow ∧ UInt64.size ≤ a * b := by
  unfold product
  by_cases fits : a * b < UInt64.size
  · simp [fits]
  · simp [fits, eq_comm, Nat.le_of_not_lt fits]

theorem product_eq_ok {a b n : Nat} (counted : product a b = .ok n) : n = a * b := by
  unfold product at counted
  split at counted
  · cases counted
    rfl
  · cases counted

namespace Population

variable {p : Population} {why : Fault}

def ClusterOverflows (p : Population) : Prop :=
  UInt64.size ≤ p.shardsPerCluster.toNat * p.replicasPerShard.toNat

-- The hosts of a cluster are counted first, even for a fleet without clusters.
def HostsOverflow (p : Population) : Prop :=
  p.ClusterOverflows ∨
    UInt64.size ≤ p.clusters.toNat * (p.shardsPerCluster.toNat * p.replicasPerShard.toNat)

theorem hostsPerCluster_eq_error :
    p.hostsPerCluster = .error why ↔ why = .productOverflow ∧ p.ClusterOverflows :=
  product_eq_error

theorem hosts_eq_error : p.hosts = .error why ↔ why = .productOverflow ∧ p.HostsOverflow := by
  unfold hosts HostsOverflow
  rw [bind_eq_error, hostsPerCluster_eq_error]
  -- Once the hosts of a cluster are counted, the fleet is one more product.
  cases size : p.hostsPerCluster with
  | error cause =>
    have past := (hostsPerCluster_eq_error.1 size).2
    simp [past]
  | ok n =>
    have within : ¬ p.ClusterOverflows := by
      intro past
      rw [hostsPerCluster_eq_error.2 ⟨rfl, past⟩] at size
      cases size
    simp [within, product_eq_error, product_eq_ok size]

theorem total_eq_error {kind : EntityKind} :
    p.total kind = .error why ↔ kind = .host ∧ why = .productOverflow ∧ p.HostsOverflow := by
  cases kind with
  | host => simp [total, hosts_eq_error]
  | _ => simp [total]

theorem check_eq_fault {kind : EntityKind} {count : Nat} :
    p.check kind count = .error (.fault why) ↔
      kind = .host ∧ why = .productOverflow ∧ p.HostsOverflow := by
  rw [← total_eq_error]
  simp [check, bind_eq_error, mapError_eq_error]

theorem check_cluster_ok_iff : p.check .cluster 1 = .ok () ↔ 1 ≤ p.clusters.toNat := by
  simp [check, total, mapError_eq_ok, checkCount_ok_iff]

theorem checkTop_eq_fault {k : Nat} {primaries : Bool} :
    p.checkTop k primaries = .error (.fault why) ↔
      primaries = false ∧ why = .productOverflow ∧ p.ClusterOverflows := by
  rw [← hostsPerCluster_eq_error]
  cases primaries <;> simp [checkTop, bind_eq_error, mapError_eq_error]

theorem not_clusterOverflows_ofScale (scale : UInt64) : ¬ (ofScale scale).ClusterOverflows := by
  unfold ClusterOverflows
  change ¬ UInt64.size ≤ 30 * 3
  decide

theorem clusters_ofScale (scale : UInt64) :
    (ofScale scale).clusters.toNat =
      max ((scale.toNat + (standardClusterSize - 1)) / standardClusterSize) 1 := by
  have bound := scale.toNat_lt
  change (max ((scale.toNat + 89) / 90) 1) % UInt64.size = max ((scale.toNat + 89) / 90) 1
  rw [Nat.mod_eq_of_lt]
  simp only [UInt64.size]
  omega

theorem hostsOverflow_ofScale_iff (scale : UInt64) :
    (ofScale scale).HostsOverflow ↔ 18446744073709551600 < scale.toNat := by
  have bound := scale.toNat_lt
  unfold HostsOverflow
  rw [clusters_ofScale]
  simp only [not_clusterOverflows_ofScale, false_or]
  -- The hosts are the scale, rounded up to a multiple of 90; the last one below 2 ^ 64 is in the bound.
  change UInt64.size ≤ max ((scale.toNat + 89) / 90) 1 * (30 * 3) ↔ _
  simp only [UInt64.size]
  omega

end Population

namespace Scenario

-- A number of hosts past 64 bits is needed to check the numbers of a scenario.
def CountsPast (p : Population) : Scenario → Prop
  | .allMetrics scope _ _ => scope = .hosts ∧ p.HostsOverflow
  | .hourlyAverage metrics scope _ _ =>
    (∃ names, metrics.resolve = .ok names) ∧ scope = .hosts ∧ p.HostsOverflow
  | .lastPoint _ => p.HostsOverflow
  | .lastPointPrimaries => False
  | .top primaries _ _ => 1 ≤ p.clusters.toNat ∧ primaries = false ∧ p.ClusterOverflows
  | .counterRate _ _ => p.HostsOverflow

theorem kind_eq_host_iff (scope : Scope) : scope.kind = .host ↔ scope = .hosts := by
  cases scope <;> simp [Scope.kind]

theorem checkCounts_eq_fault {s : Scenario} {p : Population} {why : Fault} :
    s.checkCounts p = .error (.fault why) ↔ why = .productOverflow ∧ s.CountsPast p := by
  cases s with
  | allMetrics scope count d =>
    simp [checkCounts, CountsPast, Population.check_eq_fault, kind_eq_host_iff, and_left_comm]
  | hourlyAverage metrics scope count d =>
    simp [checkCounts, CountsPast, discard_bind_eq_error, mapError_eq_error, mapError_eq_ok,
      Population.check_eq_fault, kind_eq_host_iff, and_left_comm]
  | lastPoint hosts => simp [checkCounts, CountsPast, Population.check_eq_fault]
  | lastPointPrimaries => simp [checkCounts, CountsPast]
  | top primaries k d =>
    simp [checkCounts, CountsPast, bind_unit_eq_error, Population.check_eq_fault,
      Population.check_cluster_ok_iff, Population.checkTop_eq_fault, and_left_comm]
  | counterRate hosts d => simp [checkCounts, CountsPast, Population.check_eq_fault]

theorem validate_eq_fault {s : Scenario} {p : Population} {r : TimeRange} {why : Fault} :
    s.validate p r = .error (.fault why) ↔ why = .productOverflow ∧ s.CountsPast p := by
  rw [← checkCounts_eq_fault]
  unfold validate
  rw [bind_eq_error]
  -- The window is only compared with the range, so it adds refusals but no fault.
  cases s.window? <;> simp [mapError_eq_error]

end Scenario

namespace Workload

variable {c : Settings}

theorem fitting_eq_ok {range : TimeRange} {s : Scenario} :
    fitting c range = .ok s ↔
      UseCase.lookup c.useCase c.queryType = .ok s ∧ s.validate c.fleet range = .ok () := by
  unfold fitting
  cases found : UseCase.lookup c.useCase c.queryType with
  | error why => simp
  | ok s' =>
    rcases checked : s'.validate c.fleet range with (why | why) | _ <;> simp [checked]
    · rintro rfl
      simp [checked]
    · rintro rfl
      simp [checked]
    · rintro rfl
      exact checked

theorem fitting_eq_fault {range : TimeRange} {why : Fault} :
    fitting c range = .error (.fault why) ↔
      ∃ s, UseCase.lookup c.useCase c.queryType = .ok s ∧
        s.validate c.fleet range = .error (.fault why) := by
  unfold fitting
  cases found : UseCase.lookup c.useCase c.queryType with
  | error why => simp
  | ok s => rcases checked : s.validate c.fleet range with (why | why) | _ <;> simp [checked]

theorem job_eq_fault {entropy : UInt64} {why : Fault} :
    Workload.job c entropy = .error (.fault why) ↔
      ∃ range, (∃ warnings, c.validate = .ok warnings) ∧ c.range = .ok range ∧
        fitting c range = .error (.fault why) := by
  unfold Workload.job
  rw [discard_bind_eq_error]
  simp only [bind_eq_error, mapError_eq_error, mapError_eq_ok, reduceCtorEq, and_false, exists_false,
    false_or, pure, Except.pure, or_false]
  constructor
  · rintro ⟨accepted, range, ranged, late⟩
    exact ⟨range, accepted, ranged, late⟩
  · rintro ⟨range, accepted, ranged, late⟩
    exact ⟨accepted, range, ranged, late⟩

/-- The checks at the start fault where hosts past 64 bits are counted, and nowhere else. With a fleet
laid out for a scale, only the greatest fifteen scales are such. -/
theorem job_fault_iff (c : Settings) (entropy : UInt64) (why : Fault) :
    (Workload.job c entropy = .error (.fault why) ↔
      why = .productOverflow ∧ (∃ warnings, c.validate = .ok warnings) ∧
        ∃ s, UseCase.lookup c.useCase c.queryType = .ok s ∧ s.CountsPast c.fleet) ∧
    (c.population = none →
      (c.fleet.HostsOverflow ↔ 18446744073709551600 < c.scale.toNat) ∧
        ¬ c.fleet.ClusterOverflows) := by
  refine ⟨?_, fun laidOut => ?_⟩
  · simp only [job_eq_fault, fitting_eq_fault, Scenario.validate_eq_fault]
    constructor
    · rintro ⟨range, accepted, _, s, found, rfl, past⟩
      exact ⟨rfl, accepted, s, found, past⟩
    · rintro ⟨rfl, accepted, s, found, past⟩
      obtain ⟨_, _, _, range, ranged⟩ := (c.validate_ok_iff).1 accepted
      exact ⟨range, accepted, ranged, s, found, rfl, past⟩
  · have fleet : c.fleet = .ofScale c.scale := by
      rw [Settings.fleet, laidOut]
      rfl
    rw [fleet]
    exact ⟨Population.hostsOverflow_ofScale_iff c.scale,
      Population.not_clusterOverflows_ofScale c.scale⟩

/-- A fleet without clusters has no hosts. The hosts that one of its clusters would have are counted
first, and here they are past 64 bits. -/
theorem job_of_no_clusters :
    let c : Settings :=
      { population := some ⟨0, 4294967296, 4294967296, 1, 1⟩, queries := 1, seed := some 1 }
    UseCase.lookup c.useCase c.queryType = .ok (.allMetrics .hosts 1 (.ofHours 1)) ∧
      Workload.job c 0 = .error (.fault .productOverflow) :=
  ⟨rfl, rfl⟩

end Workload

end QueryWorkload
