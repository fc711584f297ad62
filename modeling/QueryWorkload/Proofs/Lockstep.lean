import QueryWorkload.Proofs.Validation

set_option autoImplicit false

namespace QueryWorkload

variable {σ : Type}

-- Queries are filled in turn, whether those before were filled or not.
def Compiler.run (c : Compiler σ) (envelope : Nat → Query) :
    List Scenario → Sampler σ → List (Except Failure Query × Sampler σ)
  | [], _ => []
  | s :: rest, t =>
    s.fill c (envelope 0) t ::
      run c (fun i => envelope (i + 1)) rest (s.fill c (envelope 0) t).2

variable [WordSource σ]

def Sampler.afterAsking : List Scenario → Sampler σ → Sampler σ
  | [], t => t
  | s :: rest, t => afterAsking rest (s.ask t).2

theorem Compiler.run_getElem? {c : Compiler σ} {scenarios : List Scenario}
    (conveyed : ∀ s ∈ scenarios, ∀ q t, (s.fill c q t).2 = (s.ask t).2) (envelope : Nat → Query)
    (t : Sampler σ) {i : Nat} {s : Scenario} (placed : scenarios[i]? = some s) :
    (c.run envelope scenarios t)[i]? =
      some (s.fill c (envelope i) (t.afterAsking (scenarios.take i))) := by
  -- Every step leaves the sampler of the question, from which the rest of the run starts.
  induction scenarios generalizing envelope t i with
  | nil => cases placed
  | cons first rest ih =>
    cases i with
    | zero =>
      cases placed
      rfl
    | succ i =>
      have kept := conveyed first List.mem_cons_self (envelope 0) t
      have later := ih (fun s member => conveyed s (List.mem_cons_of_mem _ member))
        (fun i => envelope (i + 1)) (first.ask t).2 placed
      simp only [run, List.getElem?_cons_succ, kept]
      exact later

namespace Scenario

/-- At every step all backends put one question, or fail as it fails. Selectors look metrics up after
the draws, so they keep up with scenarios that pass their check. -/
theorem run_in_lockstep (scenarios : List Scenario) (t : Sampler σ)
    (envelope : Backend → Sql.TagLayout → Nat → Query) (i : Nat) (s : Scenario)
    (placed : scenarios[i]? = some s) :
    ∃ question : Except Failure Sample × Sampler σ,
      (∀ x, question.1 = .ok x → x.Answers s) ∧
        ∀ b layout,
          (b = .victoriaMetrics → ∀ s' ∈ scenarios,
            Selector.supports s' = true ∧ s'.validate t.population t.range = .ok ()) →
          ∃ step,
            (Compiler.run (b.compiler layout) (envelope b layout) scenarios t)[i]? = some step ∧
              Conveys (fun x q => q.FilledFor b layout (envelope b layout i).id s x) question step := by
  refine ⟨s.ask (t.afterAsking (scenarios.take i)), fun x asked => (ask_ok asked).1, ?_⟩
  intro b layout accepted
  have within (s' : Scenario) (member : s' ∈ scenarios) : s'.Within b :=
    fun selector => (accepted selector s' member).1
  have resolvable (s' : Scenario) (member : s' ∈ scenarios) (selector : b = .victoriaMetrics) :
      ∃ metrics, s'.resolve = .ok metrics := by
    have counted := ((validate_ok_iff s' _ _).1 (accepted selector s' member).2).1
    exact ((checkCounts_ok_iff s' _).1 counted).1
  have conveyed (s' : Scenario) (member : s' ∈ scenarios) (q : Query) (u : Sampler σ) :=
    fill_conveys b layout (within s' member) (resolvable s' member) q u
  refine ⟨_, Compiler.run_getElem? (fun s' member q u => (conveyed s' member q u).sampler_eq)
    (envelope b layout) t placed, ?_⟩
  exact conveyed s (List.mem_of_getElem? placed) _ _

theorem run_in_lockstep_of_two :
    let scenarios : List Scenario :=
      [.top true 2 (.ofSeconds 3600), .hourlyAverage (.exactly 3) .clusters 2 (.ofSeconds 60)]
    let t : Sampler Script :=
      ⟨⟨.ofSeconds 1451606400, .ofSeconds 1451692800⟩, .standard, .ofList [7, 11]⟩
    ∃ question : Except Failure Sample × Sampler Script,
      ∀ b layout, ∃ step,
        (Compiler.run (b.compiler layout) Query.new scenarios t)[1]? = some step ∧
          Conveys (fun x q => q.FilledFor b layout 1
            (.hourlyAverage (.exactly 3) .clusters 2 (.ofSeconds 60)) x) question step := by
  intro scenarios t
  obtain ⟨question, _, conveyed⟩ := run_in_lockstep scenarios t (fun _ _ => Query.new) 1 _ rfl
  refine ⟨question, fun b layout => conveyed b layout fun _ s member => ?_⟩
  rcases List.mem_cons.1 member with rfl | later
  · exact ⟨rfl, by decide⟩
  · cases List.mem_singleton.1 later
    exact ⟨rfl, by decide⟩

end Scenario

end QueryWorkload
