import QueryWorkload.Backend
import QueryWorkload.Proofs.Containment
import QueryWorkload.Proofs.Outcome
import QueryWorkload.Proofs.Sampling
import QueryWorkload.Proofs.TagFilter

set_option autoImplicit false

namespace QueryWorkload

namespace Scenario

-- The metrics of an hourly average; no others are asked for by number.
def resolve (s : Scenario) : Except Failure (List String) :=
  match s.metrics? with
  | some m => m.resolve.mapError Failure.refused
  | none => .ok []

def label : Scenario → String
  | .allMetrics scope count d =>
    "all metric(s) for random " ++ Text.spacePadded 4 count ++ " " ++ scopeText scope ++
      ", duration: " ++ d.label
  | .hourlyAverage metrics scope count d =>
    Text.numeral metrics.count ++ " metric(s), random " ++ Text.spacePadded 4 count ++ " " ++
      scopeText scope ++ ", random " ++ d.label ++ " by 1h"
  | .lastPoint hosts => "last point for " ++ Text.numeral hosts ++ " hosts"
  | .lastPointPrimaries => "last point per primary host"
  | .top primaries k d =>
    "top " ++ Text.numeral k ++ (if primaries then " primaries" else " hosts") ++
      " for random cluster, duration: " ++ d.label
  | .counterRate hosts d =>
    "counter rate for random " ++ Text.spacePadded 4 hosts ++ " hosts, duration: " ++ d.label

def body (s : Scenario) (backend : String) (x : Sample) (payload : Payload) : Body :=
  let label := backend ++ " " ++ s.label
  { label
    description :=
      match x.window? with
      | some w => label ++ ": " ++ w.start.toSecondText
      | none => label
    payload }

end Scenario

namespace Sql

def nameFilter (layout : TagLayout) (s : Scenario) (x : Sample) : Except Fault (List String) :=
  match s.entities? with
  | some (kind, _) => (layout.entityFilter kind.tag x.names).map ([·])
  | none => .ok []

def timeFilter (column : String) (x : Sample) : List String :=
  x.window?.toList.map (timeRange column)

def statement (layout : TagLayout) (s : Scenario) (metrics : List String) (x : Sample) :
    Except Fault String := do
  let named ← nameFilter layout s x
  let time := layout.dataColumn table timeColumn
  let host := layout.tagColumn EntityKind.host.tag
  match s with
  | .allMetrics _ _ _ =>
    return lines ["SELECT *", "FROM " ++ table, whereLine (named ++ timeFilter timeColumn x)]
  | .hourlyAverage _ scope _ _ =>
    return hourlyAverage layout (← aggregates "avg" metrics) (layout.tagColumn scope.kind.tag) time
      (named ++ timeFilter time x)
  | .lastPoint _ => return lastPoint layout named false
  | .lastPointPrimaries => return lastPoint layout named true
  | .top primaries k _ =>
    let state := layout.tagColumn stateTag ++ " = " ++ quote primaryState
    return top layout k host
      (named ++ timeFilter time x ++ (if primaries then [state] else []))
  | .counterRate _ _ => return counterRate layout host time (named ++ timeFilter time x)

end Sql

namespace Pipeline

def entity? (s : Scenario) (x : Sample) : Option (String × List String) :=
  s.entities?.map fun e => (e.1.tag, x.names)

def primariesOnly : Scenario → Bool
  | .lastPointPrimaries => true
  | .top primaries _ _ => primaries
  | _ => false

def later (s : Scenario) (metrics : List String) : List Document :=
  match s with
  | .allMetrics _ _ _ => allMetrics
  | .hourlyAverage _ scope _ _ => hourlyAverage scope.kind.tag metrics
  | .lastPoint _ => lastPoint
  | .lastPointPrimaries => lastPoint
  | .top _ k _ => top k
  | .counterRate _ _ => counterRate

def stages (s : Scenario) (metrics : List String) (x : Sample) : Except Fault (List Document) := do
  let first ← matchStage (entity? s x) x.window? (primariesOnly s)
  return first :: later s metrics

end Pipeline

namespace Selector

def supports : Scenario → Bool
  | .lastPoint _ => false
  | .lastPointPrimaries => false
  | _ => true

def step : Scenario → Nat
  | .hourlyAverage _ _ _ _ => hourStep
  | .top _ _ d => wholeStep d
  | _ => minuteStep

def expression (s : Scenario) (tags : String) : Except Failure String :=
  match s with
  | .allMetrics _ _ _ => select .all tags
  | .hourlyAverage metrics scope _ _ => do
    let series ← select metrics tags
    return "avg(avg_over_time(" ++ series ++ "[1h])) by (__name__, " ++ scope.kind.tag ++ ")"
  | .top primaries k d =>
    let tags := if primaries then tags ++ ", " ++ stateTag ++ "='" ++ primaryState ++ "'" else tags
    .ok ("topk(" ++ Text.numeral k ++ ", max by (" ++ EntityKind.host.tag ++ ") (max_over_time(" ++
      selectOne Metric.ranking tags ++ "[" ++ Text.numeral (wholeStep d) ++ "s])))")
  | .counterRate _ _ => .ok ("rate(" ++ selectOne Metric.counter tags ++ "[1m])")
  | .lastPoint _ => .ok ""
  | .lastPointPrimaries => .ok ""

def nameMatcher (s : Scenario) (x : Sample) : Except Fault String :=
  match s.entities? with
  | some (kind, _) => tagMatcher kind.tag x.names
  | none => .ok ""

end Selector

namespace Metric

theorem first_ne_nil {n : Nat} {names : List String} (found : first n = .ok names) : names ≠ [] := by
  simp only [first] at found
  split at found
  · cases found
  · cases found
    have size := length_catalogue
    intro empty
    have short := congrArg List.length empty
    rw [List.length_take, size, List.length_nil] at short
    omega

end Metric

namespace MetricSelection

theorem resolve_ne_nil {m : MetricSelection} {names : List String}
    (resolved : m.resolve = .ok names) : names ≠ [] := by
  cases m with
  | all =>
    cases resolved
    decide
  | exactly n => exact Metric.first_ne_nil resolved

end MetricSelection

namespace Scenario

theorem resolve_ok_iff (s : Scenario) :
    (∃ metrics, s.resolve = .ok metrics) ↔
      ∀ m, s.metrics? = some m → ∃ metrics, m.resolve = .ok metrics := by
  unfold resolve
  cases s.metrics? with
  | none => simp
  | some m => simp [Outcome.mapError_eq_ok]

theorem metrics_ne_nil {s : Scenario} {m : MetricSelection} {metrics : List String}
    (selected : s.metrics? = some m) (resolved : s.resolve = .ok metrics) : metrics ≠ [] := by
  unfold resolve at resolved
  rw [selected] at resolved
  cases found : m.resolve with
  | error why =>
    simp only [found] at resolved
    cases resolved
  | ok names =>
    simp only [found] at resolved
    cases resolved
    exact m.resolve_ne_nil found

variable {σ : Type} [WordSource σ]

-- Metrics are looked up, then a window and names are drawn.
def ask (s : Scenario) : Sampling σ Sample := do
  let _ ← Sampling.ofExcept s.resolve
  s.draw

theorem ask_of_resolved {s : Scenario} {metrics : List String} (resolved : s.resolve = .ok metrics) :
    (s.ask : Sampling σ Sample) = s.draw := by
  unfold ask
  rw [resolved]
  rfl

theorem ask_of_unresolved {s : Scenario} {why : Failure} (unresolved : s.resolve = .error why)
    (t : Sampler σ) : s.ask t = (.error why, t) := by
  unfold ask
  rw [unresolved]
  rfl

theorem keeps_ask (s : Scenario) : Sampling.Keeps (s.ask : Sampling σ Sample) :=
  (Sampling.keeps_ofExcept _).bind fun _ => keeps_draw s

theorem ask_ok {s : Scenario} {t : Sampler σ} {x : Sample} (asked : (s.ask t).1 = .ok x) :
    x.Answers s ∧ s.Drawable t.population t.range ∧ ∃ metrics, s.resolve = .ok metrics := by
  cases resolved : s.resolve with
  | error why =>
    rw [ask_of_unresolved resolved] at asked
    cases asked
  | ok metrics =>
    rw [ask_of_resolved resolved] at asked
    exact ⟨(draw_ok asked).1, (draw_ok asked).2, metrics, rfl⟩

end Scenario

namespace Sql

theorem nameFilter_ok (layout : TagLayout) {s : Scenario} {x : Sample} (answered : x.Answers s) :
    ∃ named, nameFilter layout s x = .ok named ∧
      ∀ kind count, s.entities? = some (kind, count) →
        ∃ filter, layout.entityFilter kind.tag x.names = .ok filter ∧ filter ∈ named := by
  cases asked : s.entities? with
  | none => exact ⟨[], by simp only [nameFilter, asked], fun _ _ other => by cases other⟩
  | some e =>
    obtain ⟨kind, count⟩ := e
    have named := answered.names_ne_nil asked
    obtain ⟨filter, found⟩ := layout.entityFilter_ok kind.tag named
    refine ⟨[filter], by simp only [nameFilter, asked, found]; rfl, ?_⟩
    rintro kind' count' ⟨⟩
    exact ⟨filter, found, List.mem_singleton_self filter⟩

theorem aggregates_ok (function : String) {metrics : List String} (begun : metrics ≠ []) :
    ∃ averages, aggregates function metrics = .ok averages := by
  simp only [aggregates, begun, if_false]
  exact ⟨_, rfl⟩

-- A statement without a join names the time as it is.
def timeOf (layout : TagLayout) : Scenario → String
  | .allMetrics _ _ _ => timeColumn
  | _ => layout.dataColumn table timeColumn

-- The statement for a sample has the filter on its names and the bounds of its window.
theorem statement_ok (layout : TagLayout) {s : Scenario} {x : Sample} {metrics : List String}
    (answered : x.Answers s) (resolved : s.resolve = .ok metrics) :
    ∃ text, statement layout s metrics x = .ok text ∧
      (∀ kind count, s.entities? = some (kind, count) →
        ∃ filter, layout.entityFilter kind.tag x.names = .ok filter ∧ Contains text filter) ∧
      ∀ w, x.window? = some w → Contains text (timeRange (timeOf layout s) w) := by
  obtain ⟨named, filtered, members⟩ := nameFilter_ok layout answered
  obtain ⟨text, stated, contains⟩ : ∃ text, statement layout s metrics x = .ok text ∧
      ∀ condition ∈ named ++ timeFilter (timeOf layout s) x, Contains text condition := by
    unfold statement
    rw [filtered]
    cases s with
    | allMetrics scope count d =>
      refine ⟨_, rfl, fun condition member => ?_⟩
      obtain ⟨filled, inside⟩ := whereLine_contains member
      exact lines_contains (by simp [timeOf]) filled inside
    | hourlyAverage m scope count d =>
      obtain ⟨averages, averaged⟩ := aggregates_ok "avg" (Scenario.metrics_ne_nil rfl resolved)
      refine ⟨hourlyAverage layout averages _ _ _, by simp only [averaged]; rfl,
        fun condition member => ?_⟩
      exact hourlyAverage_contains member _ _ _
    | lastPoint hosts =>
      refine ⟨_, rfl, fun condition member => ?_⟩
      have timeless : x.window? = none := by simpa [Scenario.window?] using answered.window
      apply lastPoint_contains
      simpa [timeFilter, timeless] using member
    | lastPointPrimaries =>
      refine ⟨_, rfl, fun condition member => ?_⟩
      have timeless : x.window? = none := by simpa [Scenario.window?] using answered.window
      apply lastPoint_contains
      simpa [timeFilter, timeless] using member
    | top primaries k d =>
      refine ⟨_, rfl, fun condition member => ?_⟩
      exact top_contains (List.mem_append_left _ member) _ _
    | counterRate hosts d =>
      refine ⟨_, rfl, fun condition member => ?_⟩
      exact counterRate_contains member _ _
  refine ⟨text, stated, fun kind count asked => ?_, fun w windowed => ?_⟩
  · obtain ⟨filter, found, member⟩ := members kind count asked
    exact ⟨filter, found, contains filter (List.mem_append_left _ member)⟩
  · exact contains _ (List.mem_append_right _ (by simp [timeFilter, windowed]))

end Sql

namespace Pipeline

theorem stages_ok {s : Scenario} {x : Sample} (answered : x.Answers s) (metrics : List String) :
    ∃ first, stages s metrics x = .ok (first :: later s metrics) ∧
      matchStage (entity? s x) x.window? (primariesOnly s) = .ok first := by
  obtain ⟨first, matched⟩ :
      ∃ first, matchStage (entity? s x) x.window? (primariesOnly s) = .ok first := by
    cases asked : s.entities? with
    | none => exact ⟨_, by simp only [entity?, asked, Option.map_none, matchStage]; rfl⟩
    | some e =>
      obtain ⟨name, rest, named⟩ := List.exists_cons_of_ne_nil (answered.names_ne_nil asked)
      exact ⟨_, by simp only [entity?, asked, named, Option.map_some, matchStage]; rfl⟩
  exact ⟨first, by simp only [stages, matched]; rfl, matched⟩

end Pipeline

namespace Selector

-- One name is compared, several are alternatives.
def matcher (key : String) : List String → String
  | [name] => key ++ "='" ++ name ++ "'"
  | names => key ++ "=~'" ++ "|".intercalate names ++ "'"

theorem tagMatcher_eq (key : String) {names : List String} (named : names ≠ []) :
    tagMatcher key names = .ok (matcher key names) := by
  match names with
  | [] => exact absurd rfl named
  | [_] => rfl
  | _ :: _ :: _ => rfl

theorem nameMatcher_ok {s : Scenario} {x : Sample} (answered : x.Answers s) :
    ∃ tags, nameMatcher s x = .ok tags ∧
      ∀ kind count, s.entities? = some (kind, count) →
        tagMatcher kind.tag x.names = .ok (matcher kind.tag x.names) ∧
          tags = matcher kind.tag x.names := by
  unfold nameMatcher
  cases asked : s.entities? with
  | none => exact ⟨"", rfl, nofun⟩
  | some e =>
    have made := tagMatcher_eq e.1.tag (answered.names_ne_nil asked)
    refine ⟨matcher e.1.tag x.names, made, ?_⟩
    rintro kind count ⟨⟩
    exact ⟨made, rfl⟩

theorem braced_contains {text part : String} (inside : Contains text part) :
    Contains (braced text) part :=
  (inside.append_left _).append_right _

theorem selectNames_contains (pattern tags : String) : Contains (selectNames pattern tags) tags :=
  braced_contains ((Contains.refl tags).append_left _)

theorem selectOne_contains (metric : String) {tags part : String} (inside : Contains tags part) :
    Contains (selectOne metric tags) part :=
  (braced_contains inside).append_left _

theorem select_ok {m : MetricSelection} {metrics : List String} (resolved : m.resolve = .ok metrics)
    (tags : String) : ∃ series, select m tags = .ok series ∧ Contains series tags := by
  unfold select
  split
  · exact ⟨_, rfl, selectNames_contains _ _⟩
  · have begun := m.resolve_ne_nil resolved
    rw [resolved]
    match metrics with
    | [] => exact absurd rfl begun
    | [metric] => exact ⟨_, rfl, selectOne_contains metric (Contains.refl tags)⟩
    | _ :: _ :: _ => exact ⟨_, rfl, selectNames_contains _ _⟩

theorem resolve_of_select {m : MetricSelection} {tags series : String}
    (selected : select m tags = .ok series) : ∃ metrics, m.resolve = .ok metrics := by
  cases resolved : m.resolve with
  | ok metrics => exact ⟨metrics, rfl⟩
  | error why =>
    unfold select at selected
    split at selected
    next covers =>
      -- A selection that covers the catalogue is not looked up, but it could be.
      cases m with
      | all => cases resolved
      | exactly n =>
        have same : n = Metric.count := of_decide_eq_true covers
        rw [same] at resolved
        cases resolved
    next =>
      rw [resolved] at selected
      cases selected

theorem resolve_of_expression {s : Scenario} {tags expr : String}
    (expressed : expression s tags = .ok expr) : ∃ metrics, s.resolve = .ok metrics := by
  rw [Scenario.resolve_ok_iff]
  intro m selected
  cases s with
  | hourlyAverage metrics scope count d =>
    cases selected
    obtain ⟨series, found, _⟩ := Outcome.bind_eq_ok.1 expressed
    exact resolve_of_select found
  | _ => cases selected

theorem expression_ok {s : Scenario} {metrics : List String} (resolved : s.resolve = .ok metrics)
    (supported : supports s = true) (tags : String) :
    ∃ expr, expression s tags = .ok expr ∧ Contains expr tags := by
  cases s with
  | allMetrics scope count d => exact ⟨_, rfl, selectNames_contains _ _⟩
  | hourlyAverage m scope count d =>
    obtain ⟨names, found⟩ := (Scenario.resolve_ok_iff _).1 ⟨metrics, resolved⟩ m rfl
    obtain ⟨series, selected, inside⟩ := select_ok found tags
    refine ⟨_, by simp only [expression, selected]; rfl, ?_⟩
    exact (((inside.append_left _).append_right _).append_right _).append_right _
  | lastPoint hosts => cases supported
  | lastPointPrimaries => cases supported
  | top primaries k d =>
    refine ⟨_, rfl, ?_⟩
    have inside : Contains (if primaries then tags ++ ", " ++ stateTag ++ "='" ++ primaryState ++ "'"
        else tags) tags := by
      cases primaries with
      | false => exact Contains.refl tags
      | true =>
        exact ((((((Contains.refl tags).append_right _).append_right _).append_right _).append_right
          _).append_right _)
    exact ((((selectOne_contains _ inside).append_left _).append_right _).append_right
      _).append_right _
  | counterRate hosts d =>
    exact ⟨_, rfl, ((selectOne_contains _ (Contains.refl tags)).append_left _).append_right _⟩

end Selector

end QueryWorkload
