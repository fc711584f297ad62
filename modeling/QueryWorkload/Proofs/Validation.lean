import QueryWorkload.Proofs.Filling

set_option autoImplicit false

namespace QueryWorkload

namespace Population

theorem check_ok_iff (p : Population) (kind : EntityKind) (count : Nat) :
    p.check kind count = .ok () ↔
      ∃ total, p.total kind = .ok total ∧ checkCount kind.word count total = .ok () := by
  simp only [check, Outcome.bind_eq_ok, Outcome.mapError_eq_ok]

end Population

namespace Scenario

def Held (s : Scenario) (p : Population) : Prop :=
  ∀ kind count total, s.entities? = some (kind, count) → p.total kind = .ok total →
    Fault.checkMemory Names.indexSize total = .ok ()

theorem checkCounts_ok_iff (s : Scenario) (p : Population) :
    s.checkCounts p = .ok () ↔
      (∃ metrics, s.resolve = .ok metrics) ∧
        (∀ kind count, s.entities? = some (kind, count) → p.check kind count = .ok ()) ∧
          s.rank p = .ok () := by
  cases s with
  | allMetrics scope count d => simp [checkCounts, resolve, metrics?, entities?, rank]
  | hourlyAverage m scope count d =>
    have found : (∃ metrics, (hourlyAverage m scope count d).resolve = .ok metrics) ↔
        ∃ metrics, m.resolve.mapError Failure.refused = .ok metrics := by
      simp [resolve, metrics?]
    rw [found]
    simp only [checkCounts, Outcome.discard_bind_eq_ok, entities?, rank]
    simp
  | lastPoint hosts => simp [checkCounts, resolve, metrics?, entities?, rank]
  | lastPointPrimaries => simp [checkCounts, resolve, metrics?, entities?, rank]
  | top primaries k d =>
    simp [checkCounts, resolve, metrics?, entities?, rank, Outcome.bind_unit_eq_ok]
  | counterRate hosts d => simp [checkCounts, resolve, metrics?, entities?, rank]

theorem validate_ok_iff (s : Scenario) (p : Population) (r : TimeRange) :
    s.validate p r = .ok () ↔
      s.checkCounts p = .ok () ∧ ∀ d, s.window? = some d → r.checkWindow d = .ok () := by
  unfold validate
  rw [Outcome.bind_unit_eq_ok]
  cases s.window? with
  | none => simp
  | some d => simp [Outcome.mapError_eq_ok]

theorem validate_ok_iff_drawable {s : Scenario} {p : Population} (held : s.Held p) (r : TimeRange) :
    s.validate p r = .ok () ↔ (∃ metrics, s.resolve = .ok metrics) ∧ s.Drawable p r := by
  rw [validate_ok_iff, checkCounts_ok_iff]
  -- The check counts names; a draw holds them in memory as well.
  constructor
  · rintro ⟨⟨resolved, counted, ranked⟩, windows⟩
    refine ⟨resolved, ranked, windows, fun kind count asked => ?_⟩
    obtain ⟨total, known, bounded⟩ := (p.check_ok_iff kind count).1 (counted kind count asked)
    exact ⟨total, known, (Names.check_ok_iff _ _ _).2 ⟨bounded, held kind count total asked known⟩⟩
  · rintro ⟨resolved, ranked, windows, named⟩
    refine ⟨⟨resolved, fun kind count asked => ?_, ranked⟩, windows⟩
    obtain ⟨total, known, checked⟩ := named kind count asked
    exact (p.check_ok_iff kind count).2 ⟨total, known, ((Names.check_ok_iff _ _ _).1 checked).1⟩

variable {σ : Type} [WordSource σ]

theorem validate_ok_of_ask {s : Scenario} {t : Sampler σ} {x : Sample}
    (held : s.Held t.population) (asked : (s.ask t).1 = .ok x) :
    s.validate t.population t.range = .ok () := by
  obtain ⟨_, drawable, resolved⟩ := ask_ok asked
  exact (validate_ok_iff_drawable held t.range).2 ⟨resolved, drawable⟩

theorem ask_of_validate_ok {s : Scenario} {t : Sampler σ} (held : s.Held t.population)
    (clear : t.range.Clear) (accepted : s.validate t.population t.range = .ok ()) :
    ∃ x, (s.ask t).1 = .ok x := by
  obtain ⟨⟨metrics, resolved⟩, drawable⟩ := (validate_ok_iff_drawable held t.range).1 accepted
  rw [ask_of_resolved resolved]
  rcases drawable.draw with ⟨x, u, drawn⟩ | ⟨_, unclear⟩
  · exact ⟨x, by rw [drawn]⟩
  · exact absurd clear unclear

theorem validate_ok_iff_fill_ok (b : Backend) (layout : Sql.TagLayout) (s : Scenario)
    (within : s.Within b) (t : Sampler σ) (held : s.Held t.population) (clear : t.range.Clear)
    (q : Query) :
    (s.validate t.population t.range = .ok () ↔
        ∃ q', (s.fill (b.compiler layout) q t).1 = .ok q') ∧
      (s.validate t.population t.range = .ok () →
        ∃ q', (s.fill (b.compiler layout) q t).1 = .ok q' ∧ q'.isFilled = true ∧ q'.id = q.id) := by
  have exact : s.validate t.population t.range = .ok () ↔
      ∃ q', (s.fill (b.compiler layout) q t).1 = .ok q' := by
    rw [fill_ok_iff b layout within q t]
    constructor
    · exact ask_of_validate_ok held clear
    · rintro ⟨x, asked⟩
      exact validate_ok_of_ask held asked
  refine ⟨exact, fun accepted => ?_⟩
  obtain ⟨q', filled⟩ := exact.1 accepted
  obtain ⟨_, x, _, filledFor⟩ := fill_ok filled
  exact ⟨q', filled, filledFor.isFilled, filledFor.id⟩

theorem fill_ok_of_top_primaries :
    let t : Sampler Script :=
      ⟨⟨.ofSeconds 1451606400, .ofSeconds 1451692800⟩, .standard, .ofList [7, 11]⟩
    ∃ q', (fill (.top true 2 (.ofSeconds 3600)) (Backend.victoriaMetrics.compiler .separate)
      (Query.new 5) t).1 = .ok q' ∧ q'.isFilled = true ∧ q'.id = 5 := by
  intro t
  have held : (top true 2 (.ofSeconds 3600)).Held t.population := by
    rintro kind count total ⟨⟩ ⟨⟩
    decide
  have clear : t.range.Clear := ⟨by decide, by decide, by decide, by decide⟩
  exact (validate_ok_iff_fill_ok .victoriaMetrics .separate _ (fun _ => rfl) t held clear
    (Query.new 5)).2 (by decide)

end Scenario

end QueryWorkload
