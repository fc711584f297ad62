import Mathlib.Data.List.Nodup
import Mathlib.Data.Nat.ModEq
import Mathlib.Data.Nat.Prime.Basic
import Mathlib.Data.Set.Function
import QueryWorkload.Proofs.Generation
import QueryWorkload.Proofs.Shares

set_option autoImplicit false

namespace QueryWorkload

namespace Plan

def seeds (base : UInt64) (plans : List Plan) : List UInt64 :=
  plans.map fun p => seed base p.worker

theorem eq_of_mul_eq_mul {step a b : UInt64} (odd : Odd step.toNat) (same : a * step = b * step) :
    a = b := by
  have coprime : Nat.Coprime (2 ^ 64) step.toNat := odd.coprime_two_left.pow_left 64
  have products : a.toNat * step.toNat ≡ b.toNat * step.toNat [MOD 2 ^ 64] := by
    have numbers := congrArg UInt64.toNat same
    rwa [UInt64.toNat_mul, UInt64.toNat_mul] at numbers
  have factors : a.toNat ≡ b.toNat [MOD 2 ^ 64] := products.cancel_right_of_coprime coprime
  exact UInt64.toNat_inj.1 (factors.eq_of_lt_of_lt a.toNat_lt b.toNat_lt)

theorem odd_seedStep : Odd seedStep.toNat := by decide

theorem seed_eq_iff {base : UInt64} {worker other : Nat} :
    seed base worker = seed base other ↔ worker ≡ other [MOD UInt64.size] := by
  unfold seed
  rw [UInt64.add_right_inj]
  constructor
  · intro same
    have words := congrArg UInt64.toNat (eq_of_mul_eq_mul odd_seedStep same)
    rwa [Nat.toUInt64_eq, Nat.toUInt64_eq, UInt64.toNat_ofNat', UInt64.toNat_ofNat'] at words
  · intro wraps
    have words : worker.toUInt64 = other.toUInt64 := by
      rw [← UInt64.toNat_inj, Nat.toUInt64_eq, Nat.toUInt64_eq, UInt64.toNat_ofNat',
        UInt64.toNat_ofNat']
      exact wraps
    rw [words]

theorem injOn_seed (base : UInt64) : Set.InjOn (seed base) (Set.Iio UInt64.size) := by
  intro worker small other otherSmall same
  exact (seed_eq_iff.1 same).eq_of_lt_of_lt small otherSmall

theorem seeds_split (base : UInt64) (queries workers : Nat) :
    seeds base (split queries workers) = (List.range (max workers 1)).map (seed base) := by
  simp [seeds, split, shareOf, Function.comp_def]

theorem nodup_seeds (base : UInt64) (queries : Nat) {workers : Nat}
    (small : workers < UInt64.size) : (seeds base (split queries workers)).Nodup := by
  have within {worker : Nat} (listed : worker ∈ List.range (max workers 1)) :
      worker ∈ Set.Iio UInt64.size := by
    have below := List.mem_range.1 listed
    have one : 1 < UInt64.size := by decide
    exact below.trans (max_lt small one)
  rw [seeds_split]
  refine List.nodup_range.map_on fun worker listed other otherListed same => ?_
  exact injOn_seed base (within listed) (within otherListed) same

theorem head?_seeds (base : UInt64) (queries workers : Nat) :
    (seeds base (split queries workers)).head? = some base := by
  obtain ⟨p, rest, plans, first, _⟩ := split_eq_cons queries workers
  rw [plans, seeds, List.map_cons, List.head?_cons, first, seed_zero]

end Plan

namespace Workload

namespace Job

def shareFrom (job : Job) (seed : UInt64) (p : Plan) : Except Failure (List Query) := do
  (Fault.checkMemory querySize p.count).mapError Failure.fault
  (fillAll job.scenario job.compiler p.ids ⟨job.range, job.population, .ofSeed seed⟩).1

structure SeededApart (job : Job) (base : UInt64) (plans : List Plan) : Prop where
  shares : ∀ p ∈ plans, job.runShare p = job.shareFrom (Plan.seed base p.worker) p
  apart : (Plan.seeds base plans).Nodup
  begins : (Plan.seeds base plans).head? = some base

end Job

variable {c : Settings} {entropy : UInt64} {job : Job}

theorem split_seededApart (built : Workload.job c entropy = .ok job) :
    job.SeededApart (c.seed.getD entropy) (Plan.split c.queries.toNat c.workers.toNat) where
  shares := by
    intro p _
    rw [← seed_eq_getD built]
    rfl
  apart := Plan.nodup_seeds _ _ c.workers.toNat_lt_size
  begins := Plan.head?_seeds _ _ _

theorem length_of_runShare (built : Workload.job c entropy = .ok job) {p : Plan} {batch : List Query}
    (share : job.runShare p = .ok batch) : batch.length = p.count := by
  have filled := (Job.runShare_eq_ok.1 share).2
  rw [compiler_of_job built] at filled
  rw [← List.length_map Query.id, (fillAll_ok filled).1, Plan.ids, List.length_range']

theorem generate_begins {qs : List Query} (generated : generate c entropy = .ok qs) {p : Plan}
    (head : p ∈ (Plan.split c.queries.toNat c.workers.toNat).head?) :
    generate { c with queries := p.count.toUInt64, workers := 1 } entropy =
      .ok (qs.take p.count) := by
  obtain ⟨job, built, _, ran⟩ := generate_eq_ok.1 generated
  have positive : 1 ≤ c.queries.toNat :=
    Nat.one_le_iff_ne_zero.2 fun zero => queries_of_job built (UInt64.toNat_inj.1 zero)
  have small : p.count ≤ c.queries.toNat := Plan.count_le_of_mem (List.mem_of_mem_head? head)
  have start := (Plan.split_deals c.queries.toNat c.workers.toNat).begins p head
  obtain ⟨first, rest, plans, worker, busy⟩ := Plan.split_eq_cons c.queries.toNat c.workers.toNat
  rw [plans, List.head?_cons, Option.mem_some_iff] at head
  subst head
  rw [plans] at ran
  obtain ⟨_, shares, rfl⟩ := Job.run_eq_ok.1 ran
  cases shares with
  | @cons _ batch _ batches share later =>
    have size := length_of_runShare built share
    rw [List.flatten_cons, ← size, List.take_left, size]
    -- The first worker's plan is the only plan of a shorter run, and its seed is the same.
    refine generate_share built small (busy positive) ?_
    rw [← seed_eq_getD built]
    obtain ⟨_, _, count⟩ := first
    cases worker
    cases start
    exact share

/-- No two workers share a seed, and the first has the base seed. So in every run each worker has a
source with a seed of its own, and the queries begin with those of a run on one worker, which has the
base seed. -/
theorem generate_seeds_apart :
    (∀ base, Set.InjOn (Plan.seed base) (Set.Iio UInt64.size)) ∧
      (∀ base, Plan.seed base 0 = base) ∧
      ∀ (c : Settings) (entropy : UInt64) (job : Job) (plans : List Plan),
        Workload.job c entropy = .ok job →
          Plan.arrange c.queries.toNat c.workers.toNat = .ok plans →
            generate c entropy = job.run plans ∧
              job.SeededApart (c.seed.getD entropy) plans ∧
              ∀ qs, generate c entropy = .ok qs → ∀ p ∈ plans.head?,
                p.count.toUInt64.toNat = p.count ∧
                  generate { c with queries := p.count.toUInt64, workers := 1 } entropy =
                    .ok (qs.take p.count) := by
  refine ⟨Plan.injOn_seed, Plan.seed_zero, fun c entropy job plans built arranged => ?_⟩
  have ran := generate_of_arranged built arranged
  obtain ⟨_, rfl⟩ := Plan.arrange_eq_ok.1 arranged
  refine ⟨ran, split_seededApart built, fun qs generated p head => ?_⟩
  have small := Plan.count_le_of_mem (List.mem_of_mem_head? head)
  exact ⟨Plan.toNat_toUInt64 small, generate_begins generated head⟩

theorem generate_seeds_apart_of_three :
    let c : Settings :=
      { queryType := "topk-primaries-cluster-1-1-1", backend := .victoriaMetrics
        queries := 4, workers := 3, seed := some 42 }
    let plans := [⟨0, 0, 2⟩, ⟨1, 2, 1⟩, ⟨2, 3, 1⟩]
    Plan.seed 42 1 ≠ Plan.seed 42 (2 ^ 64 - 1) ∧
      ∃ job, Workload.job c 0 = .ok job ∧ Plan.arrange 4 3 = .ok plans ∧
        job.SeededApart 42 plans ∧
        ∃ qs, generate c 0 = .ok qs ∧
          generate { c with queries := 2, workers := 1 } 0 = .ok (qs.take 2) := by
  intro c plans
  have done : (generate c 0).isOk = true := by decide +kernel
  obtain ⟨qs, generated⟩ := Outcome.exists_of_isOk done
  obtain ⟨job, built, _⟩ := generate_eq_ok.1 generated
  have arranged : Plan.arrange 4 3 = .ok plans := by decide
  obtain ⟨different, _, seeded⟩ := generate_seeds_apart
  obtain ⟨_, apart, begins⟩ := seeded c 0 job plans built arranged
  refine ⟨fun same => ?_, job, built, arranged, apart, qs, generated, ?_⟩
  · have equal := different 42 (by decide : 1 < UInt64.size)
      (by decide : 2 ^ 64 - 1 < UInt64.size) same
    cases equal
  · exact (begins qs generated ⟨0, 0, 2⟩ rfl).2

end Workload

end QueryWorkload
