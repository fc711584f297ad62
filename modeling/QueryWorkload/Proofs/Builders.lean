import QueryWorkload.Proofs.Question

set_option autoImplicit false

namespace QueryWorkload

namespace Filling

variable {σ α β γ : Type}

theorem bind_pure_eq (m : Filling σ α) : (m >>= pure) = m := by
  funext d
  rcases h : m d with ⟨r | a, e⟩
  · simp only [bind, h]
  · simp only [bind, h]
    rfl

theorem bind_bind (m : Filling σ α) (f : α → Filling σ β) (g : β → Filling σ γ) :
    (m >>= f >>= g) = m >>= fun a => f a >>= g := by
  funext d
  rcases h : m d with ⟨r | a, e⟩ <;> simp only [bind, h]

instance : LawfulMonad (Filling σ) :=
  .mk' _ bind_pure_eq (fun _ _ => rfl) bind_bind

@[simp] theorem sample_pure (a : α) : (sample (pure a) : Filling σ α) = pure a := rfl

@[simp] theorem sample_bind (m : Sampling σ α) (f : α → Sampling σ β) :
    (sample (m >>= f) : Filling σ β) = sample m >>= fun a => sample (f a) := by
  funext d
  rcases h : m d.sampler with ⟨r | a, t⟩ <;> simp only [bind, sample, h]

@[simp] theorem sample_ofExcept (r : Except Failure α) :
    (sample (.ofExcept r) : Filling σ α) = ofExcept r := rfl

@[simp] theorem ofExcept_ok (a : α) : (ofExcept (.ok a) : Filling σ α) = pure a := rfl

section Put

variable {m : Sampling σ Body} {d : FillState σ} {t : Sampler σ}

theorem put_sample_of_ok {body : Body} (done : m d.sampler = (.ok body, t)) :
    (sample m >>= put) d = (.ok (), ⟨d.query.fill body, t⟩) := by
  simp only [bind, sample, done, put]

-- All is drawn before the query is written, so a failure finds it unwritten.
theorem put_sample_of_error {why : Failure} (failed : m d.sampler = (.error why, t)) :
    (sample m >>= put) d = (.error why, ⟨d.query, t⟩) := by
  simp only [bind, sample, failed]

end Put

end Filling

namespace MetricSelection

theorem resolve_eq_first (m : MetricSelection) : m.resolve = Metric.first m.count := by
  cases m with
  | all =>
    have whole : Metric.catalogue.take Metric.count = Metric.catalogue := by
      rw [← Metric.length_catalogue, List.take_length]
    have inside : ¬ (Metric.count = 0 ∨ Metric.count < Metric.count) := by decide
    rw [count, Metric.first, if_neg inside, whole]
    rfl
  | exactly n => rfl

-- The number in the label of an hourly average is that of the metrics that are selected.
theorem length_of_resolve {m : MetricSelection} {metrics : List String}
    (resolved : m.resolve = .ok metrics) : metrics.length = m.count := by
  rw [resolve_eq_first, Metric.first] at resolved
  split_ifs at resolved with outside
  cases resolved
  rw [List.length_take, Metric.length_catalogue]
  omega

end MetricSelection

namespace Scenario

theorem scopeText_eq (scope : Scope) : scopeText scope = scope.kind.word ++ "s" := by
  cases scope <;> rfl

section Labels

variable (backend : String) (scope : Scope) (count : Nat) (d : Duration)

theorem label_allMetrics :
    backend ++ " all metric(s) for random " ++ Text.spacePadded 4 count ++ " " ++
        scope.kind.word ++ "s, duration: " ++ d.label =
      backend ++ " " ++ (allMetrics scope count d).label := by
  have lead : " all metric(s) for random " = " " ++ "all metric(s) for random " := rfl
  have plural : "s, duration: " = "s" ++ ", duration: " := rfl
  unfold label
  simp only [scopeText_eq, lead, plural, String.append_assoc]

theorem label_hourlyAverage (m : MetricSelection) :
    backend ++ " " ++ Text.numeral m.count ++ " metric(s), random " ++ Text.spacePadded 4 count ++
        " " ++ scope.kind.word ++ "s, random " ++ d.label ++ " by 1h" =
      backend ++ " " ++ (hourlyAverage m scope count d).label := by
  have plural : "s, random " = "s" ++ ", random " := rfl
  unfold label
  simp only [scopeText_eq, plural, String.append_assoc]

theorem label_lastPoint (hosts : Nat) :
    backend ++ " last point for " ++ Text.numeral hosts ++ " hosts" =
      backend ++ " " ++ (lastPoint hosts).label := by
  have lead : " last point for " = " " ++ "last point for " := rfl
  unfold label
  simp only [lead, String.append_assoc]

theorem label_top (primaries : Bool) (k : Nat) :
    backend ++ " top " ++ Text.numeral k ++ " " ++ (if primaries then "primaries" else "hosts") ++
        " for random cluster, duration: " ++ d.label =
      backend ++ " " ++ (top primaries k d).label := by
  have lead : " top " = " " ++ "top " := rfl
  have ranked : (if primaries then " primaries" else " hosts") =
      " " ++ if primaries then "primaries" else "hosts" := by
    cases primaries <;> rfl
  unfold label
  simp only [lead, ranked, String.append_assoc]

theorem label_counterRate (hosts : Nat) :
    backend ++ " counter rate for random " ++ Text.spacePadded 4 hosts ++ " hosts, duration: " ++
        d.label =
      backend ++ " " ++ (counterRate hosts d).label := by
  have lead : " counter rate for random " = " " ++ "counter rate for random " := rfl
  unfold label
  simp only [lead, String.append_assoc]

end Labels

end Scenario

namespace Scenario

variable {σ : Type} [WordSource σ]

-- A window and names are drawn, and what is made of them goes under the label.
def answer (s : Scenario) (backend : String) (make : Sample → Except Failure Payload) :
    Sampling σ Body := do
  let x ← s.draw
  let payload ← Sampling.ofExcept (make x)
  return s.body backend x payload

omit [WordSource σ] in
theorem checkRank_top (primaries : Bool) (k : Nat) (d : Duration) :
    (checkRank (top primaries k d) : Sampling σ Unit) = (do
      let population ← Sampling.population
      Sampling.ofExcept (population.checkTop k primaries)) := rfl

section Drawing

variable {s : Scenario} {rank : Sampling σ Unit} {d : Duration} {kind : EntityKind} {count : Nat}
  {backend : String} {make : Sample → Except Failure Payload}

theorem put_answer_of_window (ranked : s.checkRank = rank) (length : s.window? = some d)
    (asked : s.entities? = some (kind, count)) :
    (Filling.sample (s.answer backend make) >>= Filling.put : Filling σ Unit) = (do
      Filling.sample rank
      let window ← Filling.sample (.window d)
      let names ← Filling.sample (.names kind count)
      let payload ← Filling.ofExcept (make ⟨some window, names⟩)
      Filling.put (s.body backend ⟨some window, names⟩ payload)) := by
  simp only [answer, draw, ranked, drawWindow, length, drawNames, asked, Filling.sample_bind,
    Filling.sample_pure, Filling.sample_ofExcept, bind_assoc, pure_bind]

theorem put_answer_of_timeless (ranked : (s.checkRank : Sampling σ Unit) = pure ())
    (timeless : s.window? = none)
    (asked : s.entities? = some (kind, count)) :
    (Filling.sample (s.answer backend make) >>= Filling.put : Filling σ Unit) = (do
      let names ← Filling.sample (.names kind count)
      let payload ← Filling.ofExcept (make ⟨none, names⟩)
      Filling.put (s.body backend ⟨none, names⟩ payload)) := by
  simp only [answer, draw, ranked, drawWindow, timeless, drawNames, asked, Filling.sample_bind,
    Filling.sample_pure, Filling.sample_ofExcept, bind_assoc, pure_bind]

end Drawing

end Scenario

namespace Sql

def payload (layout : TagLayout) (s : Scenario) (metrics : List String) (x : Sample) :
    Except Failure Payload := do
  return .sql table (← (statement layout s metrics x).mapError Failure.fault)

variable {σ : Type} [WordSource σ] (layout : TagLayout)

def compile (s : Scenario) : Sampling σ Body := do
  s.answer backend (payload layout s (← Sampling.ofExcept s.resolve))

theorem compile_of_unselected {s : Scenario} (unselected : s.metrics? = none) :
    (compile layout s : Sampling σ Body) = s.answer backend (payload layout s []) := by
  rw [compile, Scenario.resolve, unselected, Sampling.ofExcept_ok_bind]

section Builders

variable (primaries : Bool) (scope : Scope) (count k : Nat) (d : Duration)

theorem fillAllMetrics_eq :
    (fillAllMetrics layout scope count d : Filling σ Unit) =
      (Filling.sample (compile layout (.allMetrics scope count d)) >>= Filling.put) := by
  unfold fillAllMetrics drawFilter
  rw [compile_of_unselected layout rfl, Scenario.put_answer_of_window rfl rfl rfl]
  simp only [bind_assoc]
  refine bind_congr fun window => bind_congr fun names => ?_
  rw [Scenario.label_allMetrics]
  unfold payload statement nameFilter
  dsimp only [Scenario.entities?]
  cases layout.entityFilter scope.kind.tag names with
  | error why => rfl
  | ok filter => rfl

theorem fillHourlyAverage_eq (m : MetricSelection) :
    (fillHourlyAverage layout m scope count d : Filling σ Unit) =
      (Filling.sample (compile layout (.hourlyAverage m scope count d)) >>= Filling.put) := by
  unfold fillHourlyAverage drawFilter compile Scenario.resolve
  dsimp only [Scenario.metrics?]
  cases resolved : m.resolve with
  | error why => rfl
  | ok metrics =>
    -- The label has the length of the list that is looked up.
    rw [Outcome.mapError_ok, Filling.ofExcept_ok, pure_bind, Sampling.ofExcept_ok_bind,
      m.length_of_resolve resolved, Scenario.label_hourlyAverage,
      Scenario.put_answer_of_window rfl rfl rfl]
    simp only [bind_assoc]
    refine bind_congr fun window => bind_congr fun names => ?_
    unfold payload statement nameFilter
    dsimp only [Scenario.entities?]
    cases layout.entityFilter scope.kind.tag names with
    | error why => rfl
    | ok filter =>
      cases aggregates "avg" metrics with
      | error why => rfl
      | ok averages => rfl

theorem fillTop_eq :
    (fillTop layout primaries k d : Filling σ Unit) =
      (Filling.sample (compile layout (.top primaries k d)) >>= Filling.put) := by
  unfold fillTop drawFilter
  rw [compile_of_unselected layout rfl,
    Scenario.put_answer_of_window (Scenario.checkRank_top primaries k d) rfl rfl]
  simp only [Filling.sample_bind, Filling.sample_ofExcept, bind_assoc]
  refine bind_congr fun population => bind_congr fun _ => ?_
  refine bind_congr fun window => bind_congr fun names => ?_
  rw [Scenario.label_top]
  unfold payload statement nameFilter
  dsimp only [Scenario.entities?]
  cases layout.entityFilter EntityKind.cluster.tag names with
  | error why => rfl
  | ok filter => cases primaries <;> rfl

theorem fillLastPoint_eq :
    (fillLastPoint layout count : Filling σ Unit) =
      (Filling.sample (compile layout (.lastPoint count)) >>= Filling.put) := by
  unfold fillLastPoint drawFilter
  rw [compile_of_unselected layout rfl, Scenario.put_answer_of_timeless rfl rfl rfl]
  simp only [bind_assoc]
  refine bind_congr fun names => ?_
  rw [Scenario.label_lastPoint]
  unfold payload statement nameFilter
  dsimp only [Scenario.entities?]
  cases layout.entityFilter EntityKind.host.tag names with
  | error why => rfl
  | ok filter => rfl

theorem fillCounterRate_eq :
    (fillCounterRate layout count d : Filling σ Unit) =
      (Filling.sample (compile layout (.counterRate count d)) >>= Filling.put) := by
  unfold fillCounterRate drawFilter
  rw [compile_of_unselected layout rfl, Scenario.put_answer_of_window rfl rfl rfl]
  simp only [bind_assoc]
  refine bind_congr fun window => bind_congr fun names => ?_
  rw [Scenario.label_counterRate]
  unfold payload statement nameFilter
  dsimp only [Scenario.entities?]
  cases layout.entityFilter EntityKind.host.tag names with
  | error why => rfl
  | ok filter => rfl

end Builders

-- Every builder draws what its scenario asks for, and writes the query when nothing can fail any
-- more.
theorem fill_eq (s : Scenario) :
    (fill layout s : Filling σ Unit) = (Filling.sample (compile layout s) >>= Filling.put) := by
  cases s with
  | allMetrics scope count d => exact fillAllMetrics_eq layout scope count d
  | hourlyAverage m scope count d => exact fillHourlyAverage_eq layout scope count d m
  | lastPoint hosts => exact fillLastPoint_eq layout hosts
  | lastPointPrimaries => rfl
  | top primaries k d => exact fillTop_eq layout primaries k d
  | counterRate hosts d => exact fillCounterRate_eq layout hosts d

end Sql

namespace Pipeline

def payload (s : Scenario) (metrics : List String) (x : Sample) : Except Failure Payload := do
  return .pipeline collection (← (stages s metrics x).mapError Failure.fault)

variable {σ : Type} [WordSource σ]

def compile (s : Scenario) : Sampling σ Body := do
  s.answer backend (payload s (← Sampling.ofExcept s.resolve))

theorem compile_of_unselected {s : Scenario} (unselected : s.metrics? = none) :
    (compile s : Sampling σ Body) = s.answer backend (payload s []) := by
  rw [compile, Scenario.resolve, unselected, Sampling.ofExcept_ok_bind]

section Builders

variable (primaries : Bool) (scope : Scope) (count k : Nat) (d : Duration)

theorem fillAllMetrics_eq :
    (fillAllMetrics scope count d : Filling σ Unit) =
      (Filling.sample (compile (.allMetrics scope count d)) >>= Filling.put) := by
  unfold fillAllMetrics matching
  rw [compile_of_unselected rfl, Scenario.put_answer_of_window rfl rfl rfl]
  refine bind_congr fun window => bind_congr fun names => ?_
  rw [Scenario.label_allMetrics]
  unfold payload stages entity? primariesOnly
  dsimp only [Scenario.entities?, Option.map_some]
  cases matchStage (some (scope.kind.tag, names)) (some window) false with
  | error why => rfl
  | ok first => rfl

theorem fillHourlyAverage_eq (m : MetricSelection) :
    (fillHourlyAverage m scope count d : Filling σ Unit) =
      (Filling.sample (compile (.hourlyAverage m scope count d)) >>= Filling.put) := by
  unfold fillHourlyAverage matching compile Scenario.resolve
  dsimp only [Scenario.metrics?]
  cases resolved : m.resolve with
  | error why => rfl
  | ok metrics =>
    -- What is looked up is no empty list, so the check behind it passes.
    have checked : checkMetrics metrics = .ok () := if_neg (m.resolve_ne_nil resolved)
    rw [Outcome.mapError_ok, Filling.ofExcept_ok, pure_bind, Sampling.ofExcept_ok_bind, checked,
      Outcome.mapError_ok, Filling.ofExcept_ok, pure_bind, m.length_of_resolve resolved,
      Scenario.label_hourlyAverage, Scenario.put_answer_of_window rfl rfl rfl]
    refine bind_congr fun window => bind_congr fun names => ?_
    unfold payload stages entity? primariesOnly
    dsimp only [Scenario.entities?, Option.map_some]
    cases matchStage (some (scope.kind.tag, names)) (some window) false with
    | error why => rfl
    | ok first => rfl

theorem fillTop_eq :
    (fillTop primaries k d : Filling σ Unit) =
      (Filling.sample (compile (.top primaries k d)) >>= Filling.put) := by
  unfold fillTop matching
  rw [compile_of_unselected rfl,
    Scenario.put_answer_of_window (Scenario.checkRank_top primaries k d) rfl rfl]
  simp only [Filling.sample_bind, Filling.sample_ofExcept, bind_assoc]
  refine bind_congr fun population => bind_congr fun _ => ?_
  refine bind_congr fun window => bind_congr fun names => ?_
  rw [Scenario.label_top]
  unfold payload stages entity? primariesOnly
  dsimp only [Scenario.entities?, Option.map_some]
  cases matchStage (some (EntityKind.cluster.tag, names)) (some window) primaries with
  | error why => rfl
  | ok first => rfl

theorem fillLastPoint_eq :
    (fillLastPoint count : Filling σ Unit) =
      (Filling.sample (compile (.lastPoint count)) >>= Filling.put) := by
  unfold fillLastPoint matching
  rw [compile_of_unselected rfl, Scenario.put_answer_of_timeless rfl rfl rfl]
  refine bind_congr fun names => ?_
  rw [Scenario.label_lastPoint]
  unfold payload stages entity? primariesOnly
  dsimp only [Scenario.entities?, Option.map_some]
  cases matchStage (some (EntityKind.host.tag, names)) none false with
  | error why => rfl
  | ok first => rfl

theorem fillCounterRate_eq :
    (fillCounterRate count d : Filling σ Unit) =
      (Filling.sample (compile (.counterRate count d)) >>= Filling.put) := by
  unfold fillCounterRate matching
  rw [compile_of_unselected rfl, Scenario.put_answer_of_window rfl rfl rfl]
  refine bind_congr fun window => bind_congr fun names => ?_
  rw [Scenario.label_counterRate]
  unfold payload stages entity? primariesOnly
  dsimp only [Scenario.entities?, Option.map_some]
  cases matchStage (some (EntityKind.host.tag, names)) (some window) false with
  | error why => rfl
  | ok first => rfl

end Builders

theorem fill_eq (s : Scenario) :
    (fill s : Filling σ Unit) = (Filling.sample (compile s) >>= Filling.put) := by
  cases s with
  | allMetrics scope count d => exact fillAllMetrics_eq scope count d
  | hourlyAverage m scope count d => exact fillHourlyAverage_eq scope count d m
  | lastPoint hosts => exact fillLastPoint_eq hosts
  | lastPointPrimaries => rfl
  | top primaries k d => exact fillTop_eq primaries k d
  | counterRate hosts d => exact fillCounterRate_eq hosts d

end Pipeline

namespace Selector

def payload (s : Scenario) (x : Sample) : Except Failure Payload := do
  let tags ← (nameMatcher s x).mapError Failure.fault
  let expr ← expression s tags
  let span := x.window?.map fun w => (firstEvaluation w (step s), w.stop.seconds)
  let (start, stop) := span.getD (0, 0)
  return .selector expr start stop (step s)

variable {σ : Type} [WordSource σ]

def compile (s : Scenario) : Sampling σ Body :=
  s.answer backend (payload s)

section Builders

variable (primaries : Bool) (scope : Scope) (count k : Nat) (d : Duration)

theorem fillAllMetrics_eq :
    (fillAllMetrics scope count d : Filling σ Unit) =
      (Filling.sample (compile (.allMetrics scope count d)) >>= Filling.put) := by
  unfold fillAllMetrics drawMatcher compile
  rw [Scenario.put_answer_of_window rfl rfl rfl]
  simp only [bind_assoc]
  refine bind_congr fun window => bind_congr fun names => ?_
  rw [Scenario.label_allMetrics]
  unfold payload nameMatcher
  dsimp only [Scenario.entities?]
  cases tagMatcher scope.kind.tag names with
  | error why => rfl
  | ok tags => rfl

theorem fillHourlyAverage_eq (m : MetricSelection) :
    (fillHourlyAverage m scope count d : Filling σ Unit) =
      (Filling.sample (compile (.hourlyAverage m scope count d)) >>= Filling.put) := by
  unfold fillHourlyAverage drawMatcher compile
  rw [Scenario.put_answer_of_window rfl rfl rfl]
  simp only [bind_assoc]
  refine bind_congr fun window => bind_congr fun names => ?_
  rw [Scenario.label_hourlyAverage]
  unfold payload nameMatcher expression
  dsimp only [Scenario.entities?]
  cases tagMatcher scope.kind.tag names with
  | error why => rfl
  | ok tags =>
    rw [Outcome.mapError_ok, Filling.ofExcept_ok, pure_bind, Outcome.ok_bind]
    cases select m tags with
    | error why => rfl
    | ok series => rfl

theorem fillTop_eq :
    (fillTop primaries k d : Filling σ Unit) =
      (Filling.sample (compile (.top primaries k d)) >>= Filling.put) := by
  unfold fillTop drawMatcher compile
  rw [Scenario.put_answer_of_window (Scenario.checkRank_top primaries k d) rfl rfl]
  simp only [Filling.sample_bind, Filling.sample_ofExcept, bind_assoc]
  refine bind_congr fun population => bind_congr fun _ => ?_
  refine bind_congr fun window => bind_congr fun names => ?_
  rw [Scenario.label_top]
  unfold payload nameMatcher
  dsimp only [Scenario.entities?]
  cases tagMatcher EntityKind.cluster.tag names with
  | error why => rfl
  | ok tags => rfl

theorem fillCounterRate_eq :
    (fillCounterRate count d : Filling σ Unit) =
      (Filling.sample (compile (.counterRate count d)) >>= Filling.put) := by
  unfold fillCounterRate drawMatcher compile
  rw [Scenario.put_answer_of_window rfl rfl rfl]
  simp only [bind_assoc]
  refine bind_congr fun window => bind_congr fun names => ?_
  rw [Scenario.label_counterRate]
  unfold payload nameMatcher
  dsimp only [Scenario.entities?]
  cases tagMatcher EntityKind.host.tag names with
  | error why => rfl
  | ok tags => rfl

end Builders

theorem fill?_eq (s : Scenario) :
    (fill? s : Option (Filling σ Unit)) =
      if supports s then some (Filling.sample (compile s) >>= Filling.put) else none := by
  cases s with
  | allMetrics scope count d => exact congrArg some (fillAllMetrics_eq scope count d)
  | hourlyAverage m scope count d => exact congrArg some (fillHourlyAverage_eq scope count d m)
  | lastPoint hosts => rfl
  | lastPointPrimaries => rfl
  | top primaries k d => exact congrArg some (fillTop_eq primaries k d)
  | counterRate hosts d => exact congrArg some (fillCounterRate_eq hosts d)

end Selector

end QueryWorkload
