import QueryWorkload.Proofs.Filling
import QueryWorkload.Proofs.Refusal

set_option autoImplicit false

namespace QueryWorkload

open Outcome Scenario

def Payload.backend? : Payload → Option Backend
  | .empty => none
  | .sql _ _ => some .clickHouse
  | .pipeline _ _ => some .mongo
  | .selector _ _ _ _ => some .victoriaMetrics

theorem Backend.Puts.backend?_eq {b : Backend} {layout : Sql.TagLayout} {s : Scenario} {x : Sample}
    {payload : Payload} (put : b.Puts layout s x payload) : payload.backend? = some b := by
  cases b <;> cases payload <;> first | rfl | cases put

-- The query at hand filled for some scenarios in turn, whether those before were filled or not.
def Compiler.refillAll {σ : Type} (c : Compiler σ) (scenarios : List Scenario) (d : FillState σ) :
    FillState σ :=
  scenarios.foldl (fun d s => (s.refill c d).2) d

-- What queries can be filled with: a backend, or a name for which nothing can be expressed.
inductive Generator where
  | backend (b : Backend) (layout : Sql.TagLayout)
  | bare (name : String)

namespace Generator

def Lacks : Generator → Scenario → Prop
  | .backend .victoriaMetrics _, s => s.IsLastPoint
  | .backend _ _, _ => False
  | .bare _, _ => True

def title : Generator → String
  | .backend b _ => b.title
  | .bare name => name

variable {σ : Type} [WordSource σ]

def compiler : Generator → Compiler σ
  | .backend b layout => b.compiler layout
  | .bare name => .bare name

def compile (g : Generator) (s : Scenario) : Sampling σ Body :=
  match g with
  | .backend b layout => b.compile layout s
  | .bare name => .ofExcept (.error (Refusal.unsupported s.name name))

theorem refill_eq (g : Generator) (s : Scenario) :
    (s.refill g.compiler : Filling σ Unit) = (Filling.sample (g.compile s) >>= Filling.put) := by
  cases g with
  | bare name => rfl
  | backend b layout => exact b.refill_eq layout s

theorem compile_of_lacks {g : Generator} {s : Scenario} (lacks : g.Lacks s) :
    (g.compile s : Sampling σ Body) = .ofExcept (.error (Refusal.unsupported s.name g.title)) := by
  cases g with
  | bare name => rfl
  | backend b layout =>
    cases b with
    | clickHouse => cases lacks
    | mongo => cases lacks
    | victoriaMetrics =>
      have unsupported : ¬ Selector.supports s = true := by
        rw [Scenario.supports_iff, not_not]
        exact lacks
      exact Scenario.compile_of_not_supports layout unsupported

theorem failsOnly_compile {g : Generator} {s : Scenario} (able : ¬ g.Lacks s) :
    (g.compile s : Sampling σ Body).FailsOnly Failure.OfValues := by
  cases g with
  | bare name => exact absurd trivial able
  | backend b layout =>
    cases b with
    | clickHouse => exact Sql.failsOnly_compile layout s
    | mongo => exact Pipeline.failsOnly_compile s
    | victoriaMetrics =>
      have supported := (Scenario.supports_iff s).2 able
      simp only [compile, Backend.compile, if_pos supported]
      exact Selector.failsOnly_compile s

section Refill

variable {g : Generator} {s : Scenario} {d : FillState σ} {t : Sampler σ}

theorem refill_of_error {why : Failure} (failed : g.compile s d.sampler = (.error why, t)) :
    s.refill g.compiler d = (.error why, ⟨d.query, t⟩) := by
  rw [refill_eq, Filling.put_sample_of_error failed]

theorem refill_of_ok {body : Body} (done : g.compile s d.sampler = (.ok body, t)) :
    s.refill g.compiler d = (.ok (), ⟨d.query.fill body, t⟩) := by
  rw [refill_eq, Filling.put_sample_of_ok done]

variable (g s d)

theorem query_of_refill_error {why : Failure} (failed : (s.refill g.compiler d).1 = .error why) :
    (s.refill g.compiler d).2.query = d.query := by
  rcases done : g.compile s d.sampler with ⟨r | body, t⟩
  · rw [refill_of_error done]
  · rw [refill_of_ok done] at failed
    cases failed

theorem id_of_refill : (s.refill g.compiler d).2.query.id = d.query.id := by
  rcases done : g.compile s d.sampler with ⟨r | body, t⟩
  · rw [refill_of_error done]
  · rw [refill_of_ok done]
    rfl

theorem refill_eq_refill_new (filled : (s.refill g.compiler d).1 = .ok ()) :
    s.refill g.compiler d = s.refill g.compiler ⟨Query.new d.query.id, d.sampler⟩ := by
  rcases done : g.compile s d.sampler with ⟨r | body, t⟩
  · rw [refill_of_error done] at filled
    cases filled
  · rw [refill_of_ok done, refill_of_ok (d := ⟨Query.new d.query.id, d.sampler⟩) done]
    -- All but the id is overwritten.
    rfl

theorem query_of_refillAll (scenarios : List Scenario) :
    (g.compiler.refillAll scenarios d).query = d.query ∨
      ∃ before s after, scenarios = before ++ s :: after ∧
        ∃ t, s.refill g.compiler
            ⟨Query.new d.query.id, (g.compiler.refillAll before d).sampler⟩ =
          (.ok (), ⟨(g.compiler.refillAll scenarios d).query, t⟩) := by
  -- The rest of the fillings start from what the first one leaves, which has the id of the query.
  induction scenarios generalizing d with
  | nil => exact .inl rfl
  | cons s rest ih =>
    rcases ih (s.refill g.compiler d).2 with kept | ⟨before, s', after, rfl, t, refilled⟩
    -- Nothing later was put into the query, so it is what the first filling left.
    · change (g.compiler.refillAll (s :: rest) d).query = _ at kept
      rcases done : (s.refill g.compiler d).1 with why | _
      · exact .inl (kept.trans (g.query_of_refill_error s d done))
      · refine .inr ⟨[], s, rest, rfl, (s.refill g.compiler d).2.sampler, ?_⟩
        rw [kept]
        change s.refill g.compiler ⟨Query.new d.query.id, d.sampler⟩ = _
        rw [← g.refill_eq_refill_new s d done, ← done]
    · rw [g.id_of_refill s d] at refilled
      exact .inr ⟨s :: before, s', after, rfl, t, refilled⟩

variable {g s d}

theorem payload_of_refill (filled : (s.refill g.compiler d).1 = .ok ()) :
    ∃ b layout, g = .backend b layout ∧
      (s.refill g.compiler d).2.query.payload.backend? = some b := by
  cases g with
  | bare name => cases filled
  | backend b layout =>
    refine ⟨b, layout, rfl, ?_⟩
    rcases done : b.compile layout s d.sampler with ⟨r | body, t⟩
    · rw [refill_of_error (g := .backend b layout) done] at filled
      cases filled
    · have made : (s.fill (b.compiler layout) d.query d.sampler).1 = .ok (d.query.fill body) := by
        rw [Scenario.fill_eq, done]
        rfl
      obtain ⟨_, x, _, filledFor⟩ := Scenario.fill_ok made
      rw [refill_of_ok (g := .backend b layout) done]
      exact filledFor.payload.backend?_eq

theorem refill_of_lacks (lacks : g.Lacks s) :
    s.refill g.compiler d = (.error (Refusal.unsupported s.name g.title), d) := by
  rw [refill_of_error (by rw [compile_of_lacks lacks]; rfl)]

theorem refill_unsupported_iff (scenario backend : String) :
    (s.refill g.compiler d).1 = .error (.refused (.unsupported scenario backend)) ↔
      g.Lacks s ∧ scenario = s.name ∧ backend = g.title := by
  by_cases lacks : g.Lacks s
  · rw [refill_of_lacks lacks]
    simp only [lacks, true_and, Except.error.injEq, Failure.refused.injEq, Refusal.unsupported.injEq]
    exact and_congr eq_comm eq_comm
  · refine iff_of_false (fun failed => ?_) fun given => lacks given.1
    -- What a compiler fails with is never a missing form.
    have values := failsOnly_compile lacks d.sampler
    rcases done : g.compile s d.sampler with ⟨why | body, t⟩
    · rw [refill_of_error done] at failed
      cases failed
      rw [done] at values
      exact values _ rfl
    · rw [refill_of_ok done] at failed
      cases failed

end Refill

/-- A query is filled as a whole or not at all: what was in it before has no part in what it is filled
with, and all failures leave it as it was. A missing form is reported for every scenario that the
generator lacks and for no other, and then nothing is drawn. -/
theorem refill_all_or_nothing (g : Generator) (s : Scenario) (d : FillState σ) :
    (∀ why, (s.refill g.compiler d).1 = .error why →
      (s.refill g.compiler d).2.query = d.query) ∧
    ((s.refill g.compiler d).1 = .ok () →
      (s.refill g.compiler d).2.query.id = d.query.id ∧
      s.refill g.compiler d = s.refill g.compiler ⟨Query.new d.query.id, d.sampler⟩ ∧
      ∃ b layout, g = .backend b layout ∧
        (s.refill g.compiler d).2.query.payload.backend? = some b) ∧
    (∀ scenario backend,
      (s.refill g.compiler d).1 = .error (.refused (.unsupported scenario backend)) ↔
        g.Lacks s ∧ scenario = s.name ∧ backend = g.title) ∧
    (g.Lacks s → (s.refill g.compiler d).2 = d) ∧
    ∀ scenarios,
      (g.compiler.refillAll scenarios d).query = d.query ∨
        ∃ before s' after, scenarios = before ++ s' :: after ∧
          ∃ t, s'.refill g.compiler
              ⟨Query.new d.query.id, (g.compiler.refillAll before d).sampler⟩ =
            (.ok (), ⟨(g.compiler.refillAll scenarios d).query, t⟩) := by
  refine ⟨fun why failed => g.query_of_refill_error s d failed, fun filled => ?_,
    fun scenario backend => refill_unsupported_iff scenario backend, fun lacks => ?_,
    g.query_of_refillAll d⟩
  · exact ⟨g.id_of_refill s d, g.refill_eq_refill_new s d filled, payload_of_refill filled⟩
  · rw [refill_of_lacks lacks]

-- What an aggregation put into the query is overwritten by a selector. The hourly average of no metrics
-- is then refused, after its window and its names were drawn.
theorem refill_overwrites_then_keeps :
    let g : Generator := .backend .victoriaMetrics .separate
    let t : Sampler Script :=
      ⟨⟨.ofSeconds 0, .ofSeconds 7200⟩, ⟨2, 3, 2, 1, 1⟩, .ofList [18446744073709551615, 5]⟩
    let written := (lastPointPrimaries.refill (Compiler.pipeline : Compiler Script)
      ⟨Query.new 3, t⟩).2
    let overwritten := ((top true 2 (.ofSeconds 3600)).refill g.compiler written).2
    let refused := (hourlyAverage (.exactly 0) .hosts 1 (.ofSeconds 60)).refill g.compiler overwritten
    written.query.payload.backend? = some .mongo ∧
      overwritten.query.id = 3 ∧ overwritten.query.payload.backend? = some .victoriaMetrics ∧
      overwritten =
        ((top true 2 (.ofSeconds 3600)).refill g.compiler ⟨Query.new 3, written.sampler⟩).2 ∧
      refused.1 = .error (.refused (.outOfBounds "metric" 0 Metric.count)) ∧
      refused.2.query = overwritten.query ∧
      refused.2.sampler.source ≠ overwritten.sampler.source := by
  intro g t written overwritten refused
  have filled : ((top true 2 (.ofSeconds 3600)).refill g.compiler written).1 = .ok () := by
    decide +kernel
  have late : refused.1 = .error (.refused (.outOfBounds "metric" 0 Metric.count)) := by
    decide +kernel
  have drawn : refused.2.sampler.source ≠ overwritten.sampler.source := by decide +kernel
  obtain ⟨_, success, _⟩ := refill_all_or_nothing g (top true 2 (.ofSeconds 3600)) written
  obtain ⟨kept, fresh, b, layout, same, payload⟩ := success filled
  obtain ⟨rfl, _⟩ := Generator.backend.inj same
  have failure := (refill_all_or_nothing g (hourlyAverage (.exactly 0) .hosts 1 (.ofSeconds 60))
    overwritten).1
  exact ⟨rfl, kept, payload, congrArg Prod.snd fresh, late, failure _ late, drawn⟩

end Generator

end QueryWorkload
