import Mathlib.Data.List.Forall2
import QueryWorkload.Proofs.Batch

set_option autoImplicit false

namespace QueryWorkload

namespace Settings

theorem validate_ok_iff (c : Settings) :
    (∃ warnings, c.validate = .ok warnings) ↔
      c.queries ≠ 0 ∧ c.workers ≠ 0 ∧ ¬ (c.population = none ∧ c.scale = 0) ∧
        ∃ range, c.range = .ok range := by
  unfold validate
  by_cases queries : c.queries = 0
  · simp [queries]
  · by_cases workers : c.workers = 0
    · simp [queries, workers]
    · by_cases scale : c.population = none ∧ c.scale = 0
      · simp [queries, workers, scale]
      · simp only [queries, workers, scale, if_false, Outcome.map_eq_ok, not_false_eq_true,
          true_and, ne_eq]
        constructor
        · rintro ⟨_, range, found, _⟩
          exact ⟨range, found⟩
        · rintro ⟨range, found⟩
          exact ⟨_, range, found, rfl⟩

-- A run on one worker for one plan of a run: its number of queries, and its worker's seed.
def alone (c : Settings) (seed : UInt64) (p : Plan) : Settings :=
  { c with
    queries := p.count.toUInt64
    workers := 1
    seed := some (Plan.seed seed p.worker) }

end Settings

namespace Workload

theorem job_eq_ok {c : Settings} {entropy : UInt64} {job : Job} :
    Workload.job c entropy = .ok job ↔
      (∃ warnings, c.validate = .ok warnings) ∧
        ∃ range, c.range = .ok range ∧ ∃ s, fitting c range = .ok s ∧
          { scenario := s, range
            compiler := c.backend.compiler (.ofUseTags c.separateTags)
            population := c.fleet
            seed := c.seed.getD entropy : Job } = job := by
  unfold Workload.job
  rw [Outcome.discard_bind_eq_ok]
  simp only [Outcome.bind_eq_ok, Outcome.mapError_eq_ok, Outcome.pure_eq_ok]

theorem job_resized {c : Settings} {entropy : UInt64} {job : Job}
    (built : Workload.job c entropy = .ok job) {queries workers : UInt64} (someQueries : queries ≠ 0)
    (someWorkers : workers ≠ 0) (seed : Option UInt64) (entropy' : UInt64) :
    Workload.job { c with queries, workers, seed } entropy' =
      .ok { job with seed := seed.getD entropy' } := by
  obtain ⟨accepted, range, ranged, s, fits, rfl⟩ := job_eq_ok.1 built
  obtain ⟨_, _, scaled, _⟩ := (c.validate_ok_iff).1 accepted
  refine job_eq_ok.2 ⟨?_, range, ranged, s, fits, rfl⟩
  exact (Settings.validate_ok_iff _).2 ⟨someQueries, someWorkers, scaled, range, ranged⟩

theorem generate_eq_ok {c : Settings} {entropy : UInt64} {qs : List Query} :
    generate c entropy = .ok qs ↔
      ∃ job, Workload.job c entropy = .ok job ∧
        Fault.checkMemory Plan.size (max c.workers.toNat 1) = .ok () ∧
          job.run (Plan.split c.queries.toNat c.workers.toNat) = .ok qs := by
  unfold generate
  simp only [Outcome.bind_eq_ok, Outcome.mapError_eq_ok, Plan.arrange_eq_ok]
  constructor
  · rintro ⟨job, built, plans, ⟨memory, rfl⟩, ran⟩
    exact ⟨job, built, memory, ran⟩
  · rintro ⟨job, built, memory, ran⟩
    exact ⟨job, built, _, ⟨memory, rfl⟩, ran⟩

theorem concat_eq_ok {results : List (Plan × Except Failure (List Query))} {qs : List Query} :
    concat results = .ok qs ↔
      ∃ batches, List.Forall₂ (fun r batch => r.2 = .ok batch) results batches ∧
        batches.flatten = qs := by
  induction results generalizing qs with
  | nil => simp [concat]
  | cons result rest ih =>
    obtain ⟨p, why | batch⟩ := result
    · cases why <;> simp [concat, List.forall₂_cons_left_iff]
    · simp only [concat, Outcome.map_eq_ok, ih, List.forall₂_cons_left_iff]
      constructor
      · rintro ⟨later, ⟨batches, same, rfl⟩, rfl⟩
        exact ⟨batch :: batches, ⟨batch, batches, rfl, same, rfl⟩, rfl⟩
      · rintro ⟨_, ⟨_, batches, ⟨⟩, same, rfl⟩, rfl⟩
        exact ⟨batches.flatten, ⟨batches, same, rfl⟩, rfl⟩

namespace Job

variable {job : Job}

theorem faultless {plans : List Plan} {batches : List (List Query)}
    (shares : List.Forall₂ (fun p batch => job.runShare p = .ok batch) plans batches) :
    (plans.map fun p => (p, job.runShare p)).findSome? (fun r => faultOf? r.2) = none := by
  induction shares with
  | nil => rfl
  | cons share later ih => simpa [share, faultOf?] using ih

theorem run_eq_ok {plans : List Plan} {qs : List Query} :
    job.run plans = .ok qs ↔
      ∃ batches, List.Forall₂ (fun p batch => job.runShare p = .ok batch) plans batches ∧
        batches.flatten = qs := by
  have joined : concat (plans.map fun p => (p, job.runShare p)) = .ok qs ↔
      ∃ batches, List.Forall₂ (fun p batch => job.runShare p = .ok batch) plans batches ∧
        batches.flatten = qs := by
    rw [concat_eq_ok]
    simp only [List.forall₂_map_left_iff]
  constructor
  · intro ran
    unfold run at ran
    cases fault : (plans.map fun p => (p, job.runShare p)).findSome? fun r => faultOf? r.2 with
    | none =>
      simp only [fault] at ran
      exact joined.1 ran
    | some why =>
      simp only [fault] at ran
      cases ran
  · -- No share is a fault, so the batches are what is joined.
    rintro ⟨batches, shares, rfl⟩
    unfold run
    simp only [faultless shares]
    exact joined.2 ⟨batches, shares, rfl⟩

theorem runShare_eq_alone {b : Backend} {layout : Sql.TagLayout}
    (compiled : job.compiler = b.compiler layout) (p : Plan) :
    job.runShare p =
      ({ job with seed := Plan.seed job.seed p.worker }.runShare ⟨0, 0, p.count⟩).map
        (List.map (Query.shift p.first)) := by
  -- The only worker keeps the seed of its run, and its ids start from 0.
  have ids : p.ids = (Plan.ids ⟨0, 0, p.count⟩).map (p.first + ·) := by
    rw [Plan.ids, Plan.ids, List.map_add_range', Nat.add_zero]
  have sampler : { job with seed := Plan.seed job.seed p.worker }.sampler 0 =
      job.sampler p.worker := by
    simp only [Job.sampler, Plan.seed_zero]
  unfold runShare
  rw [sampler, ids, compiled, fillAll_shift]
  cases Fault.checkMemory querySize p.count <;> rfl

theorem runShare_eq_ok {p : Plan} {batch : List Query} :
    job.runShare p = .ok batch ↔ Fault.checkMemory querySize p.count = .ok () ∧
      (fillAll job.scenario job.compiler p.ids (job.sampler p.worker)).1 = .ok batch := by
  unfold runShare
  rw [Outcome.bind_unit_eq_ok, Outcome.mapError_eq_ok]

theorem run_one_ok {p : Plan} {batch : List Query} (done : job.runShare p = .ok batch) :
    job.run [p] = .ok batch :=
  run_eq_ok.2 ⟨[batch], .cons done .nil, by simp⟩

theorem run_one_fault {p : Plan} {why : Fault} (failed : job.runShare p = .error (.fault why)) :
    job.run [p] = .error (.fault why) := by
  simp [run, failed, faultOf?]

theorem runShare_of_run_one {p : Plan} {batch : List Query} (ran : job.run [p] = .ok batch) :
    job.runShare p = .ok batch := by
  obtain ⟨batches, shares, rfl⟩ := run_eq_ok.1 ran
  cases shares with
  | cons share later =>
    cases later
    rw [share, List.flatten_singleton]

theorem flatten_shares {b : Backend} {layout : Sql.TagLayout}
    (compiled : job.compiler = b.compiler layout) {plans : List Plan} {batches : List (List Query)}
    (shares : List.Forall₂ (fun p batch => job.runShare p = .ok batch) plans batches) :
    batches.flatten.map Query.id = plans.flatMap Plan.ids ∧
      ∀ q ∈ batches.flatten, q.isFilled = true := by
  induction shares with
  | nil => exact ⟨rfl, nofun⟩
  | cons share later ih =>
    have filled := (runShare_eq_ok.1 share).2
    rw [compiled] at filled
    obtain ⟨ids, all⟩ := fillAll_ok filled
    refine ⟨?_, ?_⟩
    · rw [List.flatten_cons, List.map_append, ids, ih.1, List.flatMap_cons]
    · intro q member
      rcases List.mem_append.1 member with here | there
      · exact all q here
      · exact ih.2 q there

theorem nil_of_idle {p : Plan} (idle : p.count = 0) {batch : List Query}
    (share : job.runShare p = .ok batch) : batch = [] := by
  have filled := (runShare_eq_ok.1 share).2
  rw [Plan.ids, idle] at filled
  cases filled
  rfl

theorem runShare_more {b : Backend} {layout : Sql.TagLayout}
    (compiled : job.compiler = b.compiler layout) {few many : Nat} (positive : few ≠ 0)
    (larger : few ≤ many) {batch : List Query} (share : job.runShare ⟨0, 0, few⟩ = .ok batch) :
    (∃ rs, job.runShare ⟨0, 0, many⟩ = .ok (batch ++ rs)) ∨
      (job.runShare ⟨0, 0, many⟩ = .error (.fault .pastMemory) ∧
        Text.signedLimit ≤ many * querySize) ∨
      (job.runShare ⟨0, 0, many⟩ = .error (.fault .pastCalendar) ∧ ¬ job.range.Clear) := by
  by_cases memory : many * querySize < Text.signedLimit
  · have held := (Fault.checkMemory_ok_iff querySize many).2 memory
    have begun : Plan.ids ⟨0, 0, few⟩ ≠ [] := by simpa [Plan.ids] using positive
    have filled := (runShare_eq_ok.1 share).2
    rw [compiled] at filled
    have went : job.runShare ⟨0, 0, many⟩ =
        (fillAll job.scenario (b.compiler layout)
          (Plan.ids ⟨0, 0, few⟩ ++ List.range' few (many - few)) (job.sampler 0)).1 := by
      unfold runShare
      rw [held, Plan.ids_from_zero larger, compiled]
      rfl
    rw [went]
    rcases fillAll_more begun filled (List.range' few (many - few)) with done | late
    · exact .inl done
    · exact .inr (.inr late)
  · have full : Fault.checkMemory querySize many = .error .pastMemory := if_neg memory
    refine .inr (.inl ⟨?_, by omega⟩)
    unfold runShare
    rw [full]
    rfl

end Job

variable {c : Settings} {seed entropy : UInt64} {job : Job}

theorem seed_eq_getD (built : Workload.job c entropy = .ok job) :
    job.seed = c.seed.getD entropy := by
  obtain ⟨_, range, _, s, _, rfl⟩ := job_eq_ok.1 built
  rfl

theorem seed_of_job (seeded : c.seed = some seed) (built : Workload.job c entropy = .ok job) :
    job.seed = seed := by
  rw [seed_eq_getD built, seeded, Option.getD_some]

theorem compiler_of_job (built : Workload.job c entropy = .ok job) :
    job.compiler = c.backend.compiler (.ofUseTags c.separateTags) := by
  obtain ⟨_, range, _, s, _, rfl⟩ := job_eq_ok.1 built
  rfl

theorem range_of_job (built : Workload.job c entropy = .ok job) : c.range = .ok job.range := by
  obtain ⟨_, range, ranged, s, _, rfl⟩ := job_eq_ok.1 built
  exact ranged

theorem queries_of_job (built : Workload.job c entropy = .ok job) : c.queries ≠ 0 :=
  (c.validate_ok_iff.1 (job_eq_ok.1 built).1).1

theorem generate_of_arranged (built : Workload.job c entropy = .ok job) {plans : List Plan}
    (arranged : Plan.arrange c.queries.toNat c.workers.toNat = .ok plans) :
    generate c entropy = job.run plans := by
  unfold generate
  rw [built, Outcome.ok_bind, arranged]
  rfl

theorem generate_of_one (built : Workload.job c entropy = .ok job) (one : c.workers = 1) :
    generate c entropy = job.run [⟨0, 0, c.queries.toNat⟩] := by
  refine generate_of_arranged built ?_
  rw [one, Plan.arrange_eq_ok]
  exact ⟨rfl, Plan.split_one _⟩

theorem generate_share (built : Workload.job c entropy = .ok job) {few : Nat}
    (small : few ≤ c.queries.toNat) (busy : few ≠ 0) {seed : Option UInt64} {entropy' : UInt64}
    {batch : List Query}
    (share : { job with seed := seed.getD entropy' }.runShare ⟨0, 0, few⟩ = .ok batch) :
    generate { c with queries := few.toUInt64, workers := 1, seed } entropy' = .ok batch := by
  have whole := Plan.toNat_toUInt64 small
  have queries : few.toUInt64 ≠ 0 := by
    intro zero
    rw [zero] at whole
    exact busy whole.symm
  have own := job_resized built queries (by decide : (1 : UInt64) ≠ 0) seed entropy'
  rw [generate_of_one own rfl]
  change Job.run _ [⟨0, 0, few.toUInt64.toNat⟩] = _
  rw [whole]
  exact Job.run_one_ok share

theorem generate_alone (seeded : c.seed = some seed) (built : Workload.job c entropy = .ok job)
    {p : Plan} (small : p.count ≤ c.queries.toNat) (busy : p.count ≠ 0) {batch : List Query}
    (share : job.runShare p = .ok batch) (entropy' : UInt64) :
    ∃ own, generate (c.alone seed p) entropy' = .ok own ∧
      batch = own.map (Query.shift p.first) := by
  rw [Job.runShare_eq_alone (compiler_of_job built), seed_of_job seeded built] at share
  obtain ⟨own, done, rfl⟩ := Outcome.map_eq_ok.1 share
  exact ⟨own, generate_share built small busy done, rfl⟩

theorem generate_more (seeded : c.seed = some seed) (one : c.workers = 1) {qs : List Query}
    (generated : generate c entropy = .ok qs) {more : UInt64} (larger : c.queries ≤ more)
    (entropy' : UInt64) :
    (∃ rs, generate { c with queries := more } entropy' = .ok (qs ++ rs)) ∨
      (generate { c with queries := more } entropy' = .error (.fault .pastMemory) ∧
        Text.signedLimit ≤ more.toNat * Job.querySize) ∨
      (generate { c with queries := more } entropy' = .error (.fault .pastCalendar) ∧
        ∀ range, c.range = .ok range → ¬ range.Clear) := by
  obtain ⟨job, built, _, ran⟩ := generate_eq_ok.1 generated
  have positive := queries_of_job built
  have rebuilt : Workload.job { c with queries := more } entropy' = .ok job := by
    have same := seed_of_job seeded built
    have queries : more ≠ 0 := by
      rintro rfl
      exact positive (UInt64.le_zero_iff.1 larger)
    rw [job_resized built queries (by rw [one]; decide) c.seed entropy', seeded,
      Option.getD_some, ← same]
  rw [generate_of_one built one] at generated
  rw [generate_of_one rebuilt one]
  have few : c.queries.toNat ≠ 0 := fun zero => positive (UInt64.toNat_inj.1 zero)
  rcases Job.runShare_more (compiler_of_job built) few (UInt64.le_iff_toNat_le.1 larger)
    (Job.runShare_of_run_one generated) with ⟨rs, went⟩ | ⟨full, memory⟩ | ⟨late, unclear⟩
  · exact .inl ⟨rs, Job.run_one_ok went⟩
  · exact .inr (.inl ⟨Job.run_one_fault full, memory⟩)
  · refine .inr (.inr ⟨Job.run_one_fault late, fun range ranged => ?_⟩)
    rw [range_of_job built] at ranged
    cases ranged
    exact unclear

/-- A run is put together from runs on one worker, and its queries are numbered through. -/
theorem generate_joins_alone {c : Settings} {seed entropy : UInt64} {qs : List Query}
    (seeded : c.seed = some seed) (generated : generate c entropy = .ok qs) :
    qs.map Query.id = List.range c.queries.toNat ∧ (∀ q ∈ qs, q.isFilled = true) ∧
      (∃ batches,
        List.Forall₂ (fun p batch =>
            (p.count = 0 → batch = []) ∧
              (p.count ≠ 0 → ∀ entropy', ∃ own, generate (c.alone seed p) entropy' = .ok own ∧
                batch = own.map (Query.shift p.first)))
          (Plan.split c.queries.toNat c.workers.toNat) batches ∧
        batches.flatten = qs) ∧
      (c.workers = 1 → ∀ more, c.queries ≤ more → ∀ entropy',
        (∃ rs, generate { c with queries := more } entropy' = .ok (qs ++ rs)) ∨
          (generate { c with queries := more } entropy' = .error (.fault .pastMemory) ∧
            Text.signedLimit ≤ more.toNat * Job.querySize) ∨
          (generate { c with queries := more } entropy' = .error (.fault .pastCalendar) ∧
            ∀ range, c.range = .ok range → ¬ range.Clear)) := by
  obtain ⟨job, built, _, ran⟩ := generate_eq_ok.1 generated
  obtain ⟨batches, shares, joined⟩ := Job.run_eq_ok.1 ran
  obtain ⟨ids, filled⟩ := Job.flatten_shares (compiler_of_job built) shares
  rw [joined, Plan.flatMap_split] at ids
  rw [joined] at filled
  refine ⟨ids, filled, ⟨batches, ?_, joined⟩, fun one more larger entropy' => ?_⟩
  · have placed := (List.forall₂_and_left _ _).2 ⟨fun p member => Plan.count_le_of_mem member, shares⟩
    refine placed.imp ?_
    rintro p batch ⟨small, share⟩
    refine ⟨fun idle => Job.nil_of_idle idle share, fun busy entropy' => ?_⟩
    exact generate_alone seeded built small busy share entropy'
  · exact generate_more seeded one generated larger entropy'

theorem generate_joins_alone_of_two :
    let c : Settings :=
      { queryType := "topk-primaries-cluster-1-1-1", backend := .victoriaMetrics
        queries := 3, workers := 2, seed := some 7 }
    ∃ qs, generate c 0 = .ok qs ∧ qs.map Query.id = [0, 1, 2] ∧ ∀ q ∈ qs, q.isFilled = true := by
  intro c
  have done : (generate c 0).isOk = true := by decide +kernel
  cases generated : generate c 0 with
  | error why =>
    rw [generated] at done
    cases done
  | ok qs =>
    obtain ⟨ids, filled, _⟩ := generate_joins_alone rfl generated
    exact ⟨qs, rfl, ids.trans rfl, filled⟩

end Workload

end QueryWorkload
