import QueryWorkload.Proofs.Startup
import QueryWorkload.Proofs.Validation

set_option autoImplicit false

namespace QueryWorkload

theorem Plan.split_eq_cons (queries workers : Nat) :
    ∃ p rest, split queries workers = p :: rest ∧ p.worker = 0 ∧ (1 ≤ queries → p.count ≠ 0) := by
  obtain ⟨n, count⟩ : ∃ n, max workers 1 = n + 1 := ⟨max workers 1 - 1, by omega⟩
  have shares : split queries workers = shareOf queries (n + 1) 0 ::
      ((List.range n).map Nat.succ).map (shareOf queries (n + 1)) := by
    rw [split, count, List.range_succ_eq_map, List.map_cons]
  refine ⟨_, _, shares, rfl, ?_⟩
  -- With more workers than queries the first takes one of the remainder.
  intro positive idle
  have whole := Nat.div_add_mod queries (n + 1)
  obtain ⟨idle, extra⟩ := Nat.add_eq_zero_iff.1 idle
  rw [idle, Nat.mul_zero] at whole
  split at extra <;> omega

namespace Settings

structure Accepted (c : Settings) (range : TimeRange) (s : Scenario) : Prop where
  queries : 1 ≤ c.queries
  workers : 1 ≤ c.workers
  scale : c.population.isSome ∨ 1 ≤ c.scale
  ranged : c.range = .ok range
  found : UseCase.lookup c.useCase c.queryType = .ok s
  fits : s.validate c.fleet range = .ok ()

-- Memory holds the plans, the queries and the indices of names, and no instant is next to the ends
-- of the calendar.
structure Bounded (c : Settings) : Prop where
  plans : Fault.checkMemory Plan.size (max c.workers.toNat 1) = .ok ()
  queries : Fault.checkMemory Workload.Job.querySize c.queries.toNat = .ok ()
  names : ∀ s, UseCase.lookup c.useCase c.queryType = .ok s → s.Held c.fleet
  clear : ∀ range, c.range = .ok range → range.Clear

def jobOf (c : Settings) (range : TimeRange) (s : Scenario) (entropy : UInt64) : Workload.Job where
  scenario := s
  compiler := c.backend.compiler (.ofUseTags c.separateTags)
  range := range
  population := c.fleet
  seed := c.seed.getD entropy

end Settings

namespace Workload

theorem job_ok_iff_accepted {c : Settings} {entropy : UInt64} {job : Job} :
    Workload.job c entropy = .ok job ↔
      ∃ range s, c.Accepted range s ∧ c.jobOf range s entropy = job := by
  have positive (n : UInt64) : n ≠ 0 ↔ 1 ≤ n := by
    rw [ne_eq, ← UInt64.toNat_inj, UInt64.le_iff_toNat_le]
    exact Nat.one_le_iff_ne_zero.symm
  have scaled : ¬ (c.population = none ∧ c.scale = 0) ↔ c.population.isSome ∨ 1 ≤ c.scale := by
    rw [not_and_or, ← positive, Option.isSome_iff_ne_none]
  rw [job_eq_ok, Settings.validate_ok_iff, positive, positive, scaled]
  simp only [fitting_eq_ok]
  constructor
  · rintro ⟨⟨queries, workers, scale, _⟩, range, ranged, s, ⟨found, fits⟩, built⟩
    exact ⟨range, s, ⟨queries, workers, scale, ranged, found, fits⟩, built⟩
  · rintro ⟨range, s, accepted, built⟩
    exact ⟨⟨accepted.queries, accepted.workers, accepted.scale, range, accepted.ranged⟩, range,
      accepted.ranged, s, ⟨accepted.found, accepted.fits⟩, built⟩

namespace Job

variable {job : Job} {b : Backend} {layout : Sql.TagLayout}

theorem run_ok {plans : List Plan} (shares : ∀ p ∈ plans, ∃ batch, job.runShare p = .ok batch) :
    ∃ qs, job.run plans = .ok qs := by
  have done : ∃ batches,
      List.Forall₂ (fun p batch => job.runShare p = .ok batch) plans batches := by
    induction plans with
    | nil => exact ⟨[], .nil⟩
    | cons p rest ih =>
      obtain ⟨batch, share⟩ := shares p List.mem_cons_self
      obtain ⟨batches, later⟩ := ih fun p member => shares p (List.mem_cons_of_mem _ member)
      exact ⟨batch :: batches, .cons share later⟩
  obtain ⟨batches, shares⟩ := done
  exact ⟨batches.flatten, run_eq_ok.2 ⟨batches, shares, rfl⟩⟩

theorem run_refused {p : Plan} {rest : List Plan} {why : Refusal}
    (refused : job.runShare p = .error (.refused why))
    (faultless : ∀ p' ∈ rest, faultOf? (job.runShare p') = none) :
    job.run (p :: rest) = .error (.worker p.worker why) := by
  -- A fault of any worker would come before the refusal of the first.
  have clean : ((p :: rest).map fun p' => (p', job.runShare p')).findSome?
      (fun r => faultOf? r.2) = none := by
    rw [List.findSome?_eq_none_iff, List.forall_mem_map, List.forall_mem_cons, refused]
    exact ⟨rfl, faultless⟩
  simp only [run, clean]
  simp only [List.map_cons, refused, concat]

theorem runShare_ok (compiled : job.compiler = b.compiler layout) (within : job.scenario.Within b)
    (held : job.scenario.Held job.population) (clear : job.range.Clear)
    (fits : job.scenario.validate job.population job.range = .ok ()) {p : Plan}
    (memory : Fault.checkMemory querySize p.count = .ok ()) :
    ∃ batch, job.runShare p = .ok batch := by
  obtain ⟨⟨metrics, resolved⟩, drawable⟩ := (Scenario.validate_ok_iff_drawable held _).1 fits
  rcases fillAll_of_drawable (b := b) layout within resolved p.ids (t := job.sampler p.worker)
    drawable with ⟨batch, filled⟩ | ⟨_, unclear⟩
  · rw [← compiled] at filled
    exact ⟨batch, runShare_eq_ok.2 ⟨memory, filled⟩⟩
  · exact absurd clear unclear

theorem within_of_runShare (compiled : job.compiler = b.compiler layout) {p : Plan}
    (busy : p.count ≠ 0) {batch : List Query} (share : job.runShare p = .ok batch) :
    job.scenario.Within b := by
  obtain ⟨n, count⟩ := Nat.exists_eq_succ_of_ne_zero busy
  have filled := (runShare_eq_ok.1 share).2
  rw [compiled, Plan.ids, count, List.range'_succ] at filled
  exact (drawable_of_fillAll filled).1

theorem runShare_of_none (unexpressed : job.compiler.fill? job.scenario = none) {p : Plan}
    (memory : Fault.checkMemory querySize p.count = .ok ()) :
    job.runShare p =
      if p.count = 0 then .ok []
      else .error (.refused (.unsupported job.scenario.name job.compiler.name)) := by
  unfold runShare
  rw [memory, Plan.ids]
  cases p.count with
  | zero => rfl
  | succ n =>
    rw [List.range'_succ, fillAll_cons_error (Scenario.fill_of_none unexpressed _ _)]
    rfl

theorem run_of_none (unexpressed : job.compiler.fill? job.scenario = none)
    {queries workers : Nat} (positive : 1 ≤ queries)
    (memory : ∀ p ∈ Plan.split queries workers, Fault.checkMemory querySize p.count = .ok ()) :
    job.run (Plan.split queries workers) =
      .error (.worker 0 (.unsupported job.scenario.name job.compiler.name)) := by
  obtain ⟨p, rest, plans, first, busy⟩ := Plan.split_eq_cons queries workers
  rw [plans] at memory ⊢
  have refused : job.runShare p =
      .error (.refused (.unsupported job.scenario.name job.compiler.name)) := by
    rw [runShare_of_none unexpressed (memory p List.mem_cons_self), if_neg (busy positive)]
  rw [← first]
  refine run_refused refused fun p' member => ?_
  rw [runShare_of_none unexpressed (memory p' (List.mem_cons_of_mem _ member))]
  split <;> rfl

end Job

variable {c : Settings} {entropy : UInt64} {range : TimeRange} {s : Scenario}

theorem checkMemory_of_mem (bounded : c.Bounded) {p : Plan}
    (member : p ∈ Plan.split c.queries.toNat c.workers.toNat) :
    Fault.checkMemory Job.querySize p.count = .ok () := by
  have memory := (Fault.checkMemory_ok_iff _ _).1 bounded.queries
  have small := Nat.mul_le_mul_right Job.querySize (Plan.count_le_of_mem member)
  exact (Fault.checkMemory_ok_iff _ _).2 (Nat.lt_of_le_of_lt small memory)

theorem generate_of_job (bounded : c.Bounded) {job : Job}
    (built : Workload.job c entropy = .ok job) :
    generate c entropy = job.run (Plan.split c.queries.toNat c.workers.toNat) :=
  generate_of_arranged built (Plan.arrange_eq_ok.2 ⟨bounded.plans, rfl⟩)

theorem generate_ok_of_accepted (bounded : c.Bounded) (accepted : c.Accepted range s)
    (within : s.Within c.backend) : ∃ qs, generate c entropy = .ok qs := by
  have built : Workload.job c entropy = .ok (c.jobOf range s entropy) :=
    job_ok_iff_accepted.2 ⟨range, s, accepted, rfl⟩
  rw [generate_of_job bounded built]
  refine Job.run_ok fun p member => ?_
  exact Job.runShare_ok (compiler_of_job built) within (bounded.names s accepted.found)
    (bounded.clear range accepted.ranged) accepted.fits (checkMemory_of_mem bounded member)

theorem accepted_of_generate {qs : List Query} (generated : generate c entropy = .ok qs) :
    ∃ range s, c.Accepted range s ∧ s.Within c.backend := by
  obtain ⟨job, built, _, ran⟩ := generate_eq_ok.1 generated
  have compiled := compiler_of_job built
  obtain ⟨range, s, accepted, rfl⟩ := job_ok_iff_accepted.1 built
  obtain ⟨p, rest, plans, _, busy⟩ := Plan.split_eq_cons c.queries.toNat c.workers.toNat
  rw [plans] at ran
  -- The first worker filled a query, so the backend has a form for the scenario.
  obtain ⟨_, shares, _⟩ := Job.run_eq_ok.1 ran
  cases shares with
  | cons share later =>
    have positive := busy (UInt64.le_iff_toNat_le.1 accepted.queries)
    exact ⟨range, s, accepted, Job.within_of_runShare compiled positive share⟩

theorem generate_of_lastPoint (bounded : c.Bounded) (accepted : c.Accepted range s)
    (selectors : c.backend = .victoriaMetrics) (lastPoint : s.IsLastPoint) :
    generate c entropy = .error (.worker 0 (.unsupported s.name Selector.backend)) := by
  have built : Workload.job c entropy = .ok (c.jobOf range s entropy) :=
    job_ok_iff_accepted.2 ⟨range, s, accepted, rfl⟩
  rw [generate_of_job bounded built]
  have compiled : (c.jobOf range s entropy).compiler = .selector := by
    rw [Settings.jobOf, selectors]
    rfl
  have unexpressed : (c.jobOf range s entropy).compiler.fill? s = none := by
    rw [compiled]
    cases s with
    | lastPoint hosts => rfl
    | lastPointPrimaries => rfl
    | _ => cases lastPoint
  have refused := Job.run_of_none unexpressed (UInt64.le_iff_toNat_le.1 accepted.queries)
    fun p member => checkMemory_of_mem bounded member
  rw [compiled] at refused
  exact refused

theorem message_of_lastPoint (lastPoint : s.IsLastPoint) :
    (Error.worker 0 (.unsupported s.name Selector.backend)).message =
      "Worker 0 failed: " ++
        ("scenario '" ++ s.name ++ "' is not supported by backend 'VictoriaMetrics'") := by
  cases s with
  | lastPoint hosts => rfl
  | lastPointPrimaries => rfl
  | _ => cases lastPoint

/-- Queries are given for all settings that pass the checks, and for no others, unless they ask for the
latest readings in the form of selectors. Then the first worker says so. -/
theorem generate_ok_iff_accepted (c : Settings) (entropy : UInt64) (bounded : c.Bounded) :
    ((∃ qs, generate c entropy = .ok qs) ↔
      ∃ range s, c.Accepted range s ∧ ¬ (c.backend = .victoriaMetrics ∧ s.IsLastPoint)) ∧
    ∀ range s, c.Accepted range s → c.backend = .victoriaMetrics → s.IsLastPoint →
      ∃ why, generate c entropy = .error why ∧
        why.message = "Worker 0 failed: " ++
          ("scenario '" ++ s.name ++ "' is not supported by backend 'VictoriaMetrics'") := by
  have within (s : Scenario) :
      s.Within c.backend ↔ ¬ (c.backend = .victoriaMetrics ∧ s.IsLastPoint) := by
    rw [Scenario.Within, s.supports_iff, not_and]
  refine ⟨⟨?_, ?_⟩, fun range s accepted selectors lastPoint => ?_⟩
  · rintro ⟨qs, generated⟩
    obtain ⟨range, s, accepted, supported⟩ := accepted_of_generate generated
    exact ⟨range, s, accepted, (within s).1 supported⟩
  · rintro ⟨range, s, accepted, supported⟩
    exact generate_ok_of_accepted bounded accepted ((within s).2 supported)
  · exact ⟨_, generate_of_lastPoint bounded accepted selectors lastPoint,
      message_of_lastPoint lastPoint⟩

theorem generate_of_idle_worker :
    let c (backend : Backend) : Settings :=
      { queryType := "last-point-host-30", backend, queries := 2, workers := 3, seed := some 7 }
    (∃ qs, generate (c .mongo) 0 = .ok qs) ∧
      ∃ why, generate (c .victoriaMetrics) 0 = .error why ∧ why.message = "Worker 0 failed: " ++
        "scenario 'LastPointForHosts' is not supported by backend 'VictoriaMetrics'" := by
  intro c
  let range : TimeRange := ⟨.ofSeconds 1451606400, .ofSeconds 1452211200⟩
  have clear : range.Clear := ⟨by decide, by decide, by decide, by decide⟩
  have hosts : Population.total (.ofScale 9000) .host = .ok 9000 := by decide
  have held : (Scenario.lastPoint 30).Held (.ofScale 9000) := by
    rintro kind count total ⟨⟩ known
    cases hosts.symm.trans known
    decide
  have fits : (Scenario.lastPoint 30).validate (.ofScale 9000) range = .ok () := by decide
  have two : (1 : UInt64) ≤ 2 := by decide
  have three : (1 : UInt64) ≤ 3 := by decide
  have scale : (1 : UInt64) ≤ 9000 := by decide
  have accepted (backend : Backend) : (c backend).Accepted range (.lastPoint 30) :=
    ⟨two, three, .inr scale, rfl, rfl, fits⟩
  have plans : Fault.checkMemory Plan.size 3 = .ok () := by decide
  have queries : Fault.checkMemory Job.querySize 2 = .ok () := by decide
  have bounded (backend : Backend) : (c backend).Bounded := by
    refine ⟨plans, queries, fun s found => ?_, fun r ranged => ?_⟩
    · cases (accepted backend).found.symm.trans found
      exact held
    · cases (accepted backend).ranged.symm.trans ranged
      exact clear
  refine ⟨?_, ?_⟩
  · exact (generate_ok_iff_accepted (c .mongo) 0 (bounded .mongo)).1.2
      ⟨range, .lastPoint 30, accepted .mongo, nofun⟩
  · exact (generate_ok_iff_accepted (c .victoriaMetrics) 0 (bounded .victoriaMetrics)).2 range
      (.lastPoint 30) (accepted .victoriaMetrics) rfl trivial

end Workload

end QueryWorkload
