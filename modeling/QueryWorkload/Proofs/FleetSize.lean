import Mathlib.Order.Bounds.Basic
import QueryWorkload.Proofs.Startup
import QueryWorkload.Proofs.Validation

set_option autoImplicit false

namespace QueryWorkload.Population

-- What whole clusters of a size can hold together, if that is enough for a scale.
def Sufficient (size scale : Nat) : Set Nat :=
  {hosts | 0 < hosts ∧ size ∣ hosts ∧ scale ≤ hosts}

structure SmallestFor (scale : Nat) (p : Population) : Prop where
  clusters : 1 ≤ p.clusters.toNat
  groups : p.groups = p.clusters
  orgs : p.orgs = p.clusters
  hosts : ∃ size least, p.hostsPerCluster = .ok size ∧ IsLeast (Sufficient size scale) least ∧
    (least < UInt64.size ∧ p.hosts = .ok least ∧
        (∀ n, 1 ≤ n → n ≤ scale → p.check .host n = .ok ()) ∧
        (∃ fewer, ({ p with clusters := p.clusters - 1 } : Population).hosts = .ok fewer ∧
          (fewer < scale ∨ p.clusters = 1)) ∨
      UInt64.size ≤ least ∧ p.hosts = .error .productOverflow)

theorem roundedUp_le_iff {size : Nat} (positive : 0 < size) (scale clusters : Nat) :
    (scale + (size - 1)) / size ≤ clusters ↔ scale ≤ clusters * size := by
  rw [Nat.div_le_iff_le_mul_add_pred positive, Nat.mul_comm]
  omega

theorem isLeast_sufficient {size : Nat} (positive : 0 < size) (scale : Nat) :
    IsLeast (Sufficient size scale) (max ((scale + (size - 1)) / size) 1 * size) := by
  constructor
  · have enough := (roundedUp_le_iff positive scale _).1 (Nat.le_max_left _ 1)
    exact ⟨Nat.mul_pos (Nat.le_max_right _ 1) positive, Nat.dvd_mul_left _ _, enough⟩
  · rintro hosts ⟨hosted, ⟨clusters, rfl⟩, enough⟩
    rw [Nat.mul_comm size] at enough ⊢
    have one : 1 ≤ clusters := Nat.pos_of_mul_pos_left hosted
    exact Nat.mul_le_mul_right size (max_le ((roundedUp_le_iff positive scale _).2 enough) one)

theorem hostsPerCluster_ofScale (scale : UInt64) :
    (ofScale scale).hostsPerCluster = .ok standardClusterSize := rfl

theorem hosts_withClusters_ofScale (scale clusters : UInt64) :
    ({ ofScale scale with clusters } : Population).hosts = product clusters.toNat standardClusterSize :=
  rfl

theorem check_of_hosts {p : Population} {hosts n : Nat} (counted : p.hosts = .ok hosts) (positive : 1 ≤ n)
    (within : n ≤ hosts) : p.check .host n = .ok () := by
  rw [check_ok_iff]
  exact ⟨hosts, counted, (checkCount_ok_iff _ _ _).2 ⟨positive, within⟩⟩

-- One cluster fewer is too few, unless it is the only one.
theorem hosts_withoutCluster (scale : UInt64) :
    ∃ fewer, ({ ofScale scale with clusters := (ofScale scale).clusters - 1 } : Population).hosts =
        .ok fewer ∧
      (fewer < scale.toNat ∨ (ofScale scale).clusters = 1) := by
  have clusters := clusters_ofScale scale
  have bound := scale.toNat_lt
  have one : (1 : UInt64) ≤ (ofScale scale).clusters := by
    rw [UInt64.le_iff_toNat_le, clusters]
    exact Nat.le_max_right _ _
  have rest : ((ofScale scale).clusters - 1).toNat = (ofScale scale).clusters.toNat - 1 :=
    UInt64.toNat_sub_of_le _ _ one
  rw [hosts_withClusters_ofScale, rest]
  by_cases single : (ofScale scale).clusters.toNat = 1
  · exact ⟨0, by rw [single]; rfl, .inr (UInt64.toNat_inj.1 single)⟩
  · have below : ((ofScale scale).clusters.toNat - 1) * standardClusterSize < scale.toNat := by
      rw [← Nat.not_le, ← roundedUp_le_iff (by decide)]
      rw [clusters] at single ⊢
      omega
    exact ⟨_, if_pos (below.trans bound), .inl below⟩

/-- A fleet for a scale has a cluster, and groups and organisations like clusters. It has the fewest
hosts that clusters of its size can have for the scale, so that up to the scale hosts can be asked for,
and with a cluster fewer they could not; or just if that number is past 64 bits, counting them fails. -/
theorem ofScale_smallest (scale : UInt64) : SmallestFor scale.toNat (ofScale scale) := by
  have clusters := clusters_ofScale scale
  have least : IsLeast (Sufficient standardClusterSize scale.toNat)
      ((ofScale scale).clusters.toNat * standardClusterSize) := by
    rw [clusters]
    exact isLeast_sufficient (by decide) scale.toNat
  have one : 1 ≤ (ofScale scale).clusters.toNat := clusters ▸ Nat.le_max_right _ 1
  refine ⟨one, rfl, rfl, standardClusterSize, _, hostsPerCluster_ofScale scale, least, ?_⟩
  by_cases fits : (ofScale scale).clusters.toNat * standardClusterSize < UInt64.size
  · have counted : (ofScale scale).hosts =
        .ok ((ofScale scale).clusters.toNat * standardClusterSize) := if_pos fits
    refine .inl ⟨fits, counted, fun n positive within => ?_, hosts_withoutCluster scale⟩
    exact check_of_hosts counted positive (within.trans least.1.2.2)
  · exact .inr ⟨Nat.le_of_not_lt fits, if_neg fits⟩

end QueryWorkload.Population
