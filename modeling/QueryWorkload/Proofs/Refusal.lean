import QueryWorkload.Proofs.Builders

set_option autoImplicit false

namespace QueryWorkload

open Outcome

-- Failures that lie in the numbers of a request or in the sampler, not in a missing form.
def Failure.OfValues : Failure → Prop
  | .refused (.unsupported _ _) => False
  | _ => True

theorem failsOnly_fault {α : Type} (m : Except Fault α) :
    FailsOnly Failure.OfValues (m.mapError Failure.fault) :=
  failsOnly_mapError.2 fun _ _ => trivial

theorem failsOnly_checkCount (what : String) (count total : Nat) :
    FailsOnly Failure.OfValues ((checkCount what count total).mapError Failure.refused) := by
  rw [failsOnly_mapError, checkCount]
  split
  · exact failsOnly_ok _ ()
  · exact failsOnly_error trivial

theorem MetricSelection.failsOnly_resolve (m : MetricSelection) :
    FailsOnly Failure.OfValues (m.resolve.mapError Failure.refused) := by
  rw [failsOnly_mapError]
  cases m with
  | all => exact failsOnly_ok _ _
  | exactly n =>
    simp only [resolve, Metric.first]
    split
    · exact failsOnly_error trivial
    · exact failsOnly_ok _ _

theorem Population.failsOnly_checkTop (p : Population) (k : Nat) (primaries : Bool) :
    FailsOnly Failure.OfValues (p.checkTop k primaries) := by
  unfold checkTop
  split
  · exact failsOnly_checkCount _ _ _
  · exact (failsOnly_fault _).bind fun _ => failsOnly_checkCount _ _ _

theorem Names.failsOnly_check (kind : EntityKind) (count total : Nat) :
    FailsOnly Failure.OfValues (check kind count total) :=
  (failsOnly_checkCount _ _ _).bind fun _ => failsOnly_fault _

section Drawing

variable {σ : Type} [WordSource σ]

theorem Sampling.failsOnly_window (d : Duration) :
    FailsOnly Failure.OfValues (window d : Sampling σ TimeRange) := by
  intro t
  rw [window_apply]
  cases checked : t.range.checkWindow d with
  | error why =>
    rw [TimeRange.drawWindow_of_refused checked]
    simp only [TimeRange.checkWindow] at checked
    split at checked
    · cases checked
    · cases checked
      exact failsOnly_error trivial
  | ok _ =>
    rw [TimeRange.drawWindow_of_checked checked]
    split
    · exact failsOnly_ok _ _
    · exact failsOnly_error trivial

theorem Sampling.failsOnly_names (kind : EntityKind) (count : Nat) :
    FailsOnly Failure.OfValues (names kind count : Sampling σ (List String)) := by
  intro t
  cases known : t.population.total kind with
  | error why =>
    simp only [names, known]
    exact failsOnly_error trivial
  | ok total =>
    rw [names_of_total_ok known]
    cases checked : Names.check kind count total with
    | error why =>
      rw [Names.draw_of_error checked]
      exact failsOnly_error (Names.failsOnly_check kind count total why checked)
    | ok _ =>
      rw [Names.draw_of_ok checked]
      exact failsOnly_ok _ _

namespace Scenario

theorem failsOnly_resolve (s : Scenario) : FailsOnly Failure.OfValues s.resolve := by
  unfold resolve
  split
  · exact MetricSelection.failsOnly_resolve _
  · exact failsOnly_ok _ _

omit [WordSource σ] in
theorem failsOnly_checkRank (s : Scenario) :
    Sampling.FailsOnly Failure.OfValues (s.checkRank : Sampling σ Unit) := by
  intro t
  rw [checkRank_apply]
  cases s with
  | top primaries k d => exact t.population.failsOnly_checkTop k primaries
  | _ => exact failsOnly_ok _ ()

theorem failsOnly_drawWindow (s : Scenario) :
    Sampling.FailsOnly Failure.OfValues (s.drawWindow : Sampling σ _) := by
  unfold drawWindow
  split
  · exact (Sampling.failsOnly_window _).bind fun _ => Sampling.failsOnly_pure _ _
  · exact Sampling.failsOnly_pure _ _

theorem failsOnly_drawNames (s : Scenario) :
    Sampling.FailsOnly Failure.OfValues (s.drawNames : Sampling σ _) := by
  unfold drawNames
  split
  · exact Sampling.failsOnly_names _ _
  · exact Sampling.failsOnly_pure _ _

theorem failsOnly_draw (s : Scenario) :
    Sampling.FailsOnly Failure.OfValues (s.draw : Sampling σ Sample) :=
  (failsOnly_checkRank s).bind fun _ => (failsOnly_drawWindow s).bind fun _ =>
    (failsOnly_drawNames s).bind fun _ => Sampling.failsOnly_pure _ _

theorem failsOnly_answer {s : Scenario} {backend : String} {make : Sample → Except Failure Payload}
    (fails : ∀ x, FailsOnly Failure.OfValues (make x)) :
    Sampling.FailsOnly Failure.OfValues (s.answer backend make : Sampling σ Body) :=
  s.failsOnly_draw.bind fun x => (Sampling.failsOnly_ofExcept (fails x)).bind fun _ =>
    Sampling.failsOnly_pure _ _

end Scenario

theorem Sql.failsOnly_compile (layout : TagLayout) (s : Scenario) :
    Sampling.FailsOnly Failure.OfValues (compile layout s : Sampling σ Body) :=
  (Sampling.failsOnly_ofExcept s.failsOnly_resolve).bind fun _ =>
    Scenario.failsOnly_answer fun _ => (failsOnly_fault _).bind fun _ => failsOnly_ok _ _

theorem Pipeline.failsOnly_compile (s : Scenario) :
    Sampling.FailsOnly Failure.OfValues (compile s : Sampling σ Body) :=
  (Sampling.failsOnly_ofExcept s.failsOnly_resolve).bind fun _ =>
    Scenario.failsOnly_answer fun _ => (failsOnly_fault _).bind fun _ => failsOnly_ok _ _

theorem Selector.failsOnly_select (m : MetricSelection) (tags : String) :
    FailsOnly Failure.OfValues (select m tags) := by
  unfold select
  split
  · exact failsOnly_ok _ _
  · refine m.failsOnly_resolve.bind fun metrics => ?_
    match metrics with
    | [] => exact failsOnly_error trivial
    | [_] => exact failsOnly_ok _ _
    | _ :: _ :: _ => exact failsOnly_ok _ _

theorem Selector.failsOnly_expression (s : Scenario) (tags : String) :
    FailsOnly Failure.OfValues (expression s tags) := by
  cases s with
  | allMetrics scope count d => exact failsOnly_select _ tags
  | hourlyAverage m scope count d =>
    exact (failsOnly_select m tags).bind fun _ => failsOnly_ok _ _
  | _ => exact failsOnly_ok _ _

theorem Selector.failsOnly_compile (s : Scenario) :
    Sampling.FailsOnly Failure.OfValues (compile s : Sampling σ Body) :=
  Scenario.failsOnly_answer fun _ => (failsOnly_fault _).bind fun tags =>
    (failsOnly_expression s tags).bind fun _ => failsOnly_ok _ _

end Drawing

end QueryWorkload
