import Mathlib.Data.Set.Basic
import QueryWorkload.Backend
import QueryWorkload.Proofs.Filling
import QueryWorkload.Proofs.Signed

set_option autoImplicit false

namespace QueryWorkload

open Instant

-- What a query over a window may read, in nanoseconds: all after its start, up to its end.
def TimeRange.span (w : TimeRange) : Set Int :=
  {n | w.start.toNanos < n ∧ n ≤ w.stop.toNanos}

theorem Instant.plus_wholeSeconds {t : Instant} {d : Duration} (start : t.nanos = 0)
    (whole : d.subsecond = 0) : t.plus d.nanos = ofSeconds (t.seconds + d.seconds) := by
  have plain : t.nanos < second := by simp only [start, second, Nat.zero_lt_succ]
  rw [plus_eq_ofNanos plain]
  simp only [Duration.subsecond, Duration.nanosPerSecond] at whole
  simp only [ofNanos, ofSeconds, toNanos, start, Duration.seconds, Duration.nanosPerSecond, second,
    Instant.mk.injEq]
  omega

-- A window of whole seconds, `length` of them, from the start of a second on.
structure TimeRange.Whole (w : TimeRange) (length : Nat) : Prop where
  positive : 0 < length
  start : w.start = ofSeconds w.start.seconds
  stop : w.stop = ofSeconds (w.start.seconds + length)

theorem TimeRange.whole_of_drawWindow {σ : Type} [WordSource σ] {r w : TimeRange} {d : Duration}
    {s : σ} (drawn : (r.drawWindow d s).1 = .ok w) (start : w.start.nanos = 0)
    (whole : d.subsecond = 0) : w.Whole d.seconds := by
  obtain ⟨checked, placed⟩ := drawWindow_eq_ok drawn
  have positive := ((checkWindow_ok_iff r d).1 checked).1
  refine ⟨?_, ?_, ?_⟩
  · simp only [Duration.subsecond, Duration.seconds, Duration.nanosPerSecond] at *
    omega
  · simp only [ofSeconds, ← start]
  · have stop : w.stop = w.start.plus d.nanos := by rw [placed]; rfl
    rw [stop, plus_wholeSeconds start whole]

namespace Selector

def evaluations (start stop : Int) (step : Nat) : List Int :=
  (List.range ((stop - start) / step + 1).toNat).map fun i : Nat => start + i * step

def lookback (step : Nat) (e : Int) : Set Int :=
  {n | (e - step) * second < n ∧ n ≤ e * second}

theorem mem_evaluations {start stop : Int} {step : Nat} (positive : 0 < step) {e : Int} :
    e ∈ evaluations start stop step ↔ ∃ i : Nat, e = start + i * step ∧ e ≤ stop := by
  have divisor : (0 : Int) < step := by omega
  -- The last multiple of the step that is not past the end is found by division.
  have last (i : Nat) : i < ((stop - start) / step + 1).toNat ↔ start + i * step ≤ stop := by
    have quotient := Int.le_ediv_iff_mul_le (a := i) (b := stop - start) divisor
    omega
  simp only [evaluations, List.mem_map, List.mem_range, last]
  constructor
  · rintro ⟨i, inside, rfl⟩
    exact ⟨i, rfl, inside⟩
  · rintro ⟨i, rfl, inside⟩
    exact ⟨i, inside, rfl⟩

theorem bounds_of_mem_evaluations {start stop : Int} {step : Nat} (positive : 0 < step) {e : Int}
    (member : e ∈ evaluations start stop step) : start ≤ e ∧ e ≤ stop := by
  obtain ⟨i, rfl, inside⟩ := (mem_evaluations positive).1 member
  have later := Int.mul_nonneg (Int.natCast_nonneg i) (Int.natCast_nonneg step)
  exact ⟨Int.le_add_of_nonneg_right later, inside⟩

theorem lookback_subset_iff {step : Nat} (positive : 0 < step) (e a b : Int) :
    lookback step e ⊆ {n | a * second < n ∧ n ≤ b * second} ↔ a ≤ e - step ∧ e ≤ b := by
  constructor
  -- The first nanosecond of the lookback and its last one bound all of it.
  · intro inside
    have ordered : (e - step) * second + 1 ≤ e * second := by
      simp only [second]
      omega
    have first : (e - step) * second + 1 ∈ lookback step e := ⟨Int.lt_succ _, ordered⟩
    have last : e * second ∈ lookback step e := ⟨ordered, Int.le_refl _⟩
    have lower := (inside first).1
    have upper := (inside last).2
    simp only [second] at lower upper
    omega
  · rintro ⟨lower, upper⟩ n ⟨after, before⟩
    simp only [second, Set.mem_ofPred_eq] at *
    omega

theorem step_pos (s : Scenario) : 0 < step s := by
  cases s with
  | top primaries k d => exact Nat.le_max_right _ _
  | _ => exact Nat.succ_pos _

theorem step_top_le {primaries : Bool} {k : Nat} {d : Duration} (positive : 0 < d.seconds) :
    step (.top primaries k d) ≤ d.seconds :=
  Nat.max_le.2 ⟨Nat.le_refl _, positive⟩

section Window

variable {w : TimeRange} {length step : Nat} (whole : w.Whole length) (positive : 0 < step)
  (first : firstEvaluation w step = min (w.start.seconds + step) w.stop.seconds)

include whole positive

include first in
theorem firstEvaluation_bounds :
    w.start.seconds < firstEvaluation w step ∧ firstEvaluation w step ≤ w.stop.seconds := by
  have long := whole.positive
  rw [first, whole.stop]
  simp only [ofSeconds]
  omega

include first in
theorem firstEvaluation_mem :
    firstEvaluation w step ∈ evaluations (firstEvaluation w step) w.stop.seconds step :=
  (mem_evaluations positive).2 ⟨0, by omega, (firstEvaluation_bounds whole positive first).2⟩

theorem lookback_subset_span_iff (e : Int) :
    lookback step e ⊆ w.span ↔ w.start.seconds ≤ e - step ∧ e ≤ w.stop.seconds := by
  have start : w.start.toNanos = w.start.seconds * second := by
    rw [whole.start, toNanos]
    simp [ofSeconds]
  have stop : w.stop.toNanos = w.stop.seconds * second := by
    rw [whole.stop, toNanos]
    simp [ofSeconds]
  rw [TimeRange.span, start, stop, lookback_subset_iff positive]

include first in
theorem lookbacks_subset_span_iff :
    (∀ e ∈ evaluations (firstEvaluation w step) w.stop.seconds step, lookback step e ⊆ w.span) ↔
      step ≤ length := by
  have stop : w.stop.seconds = w.start.seconds + length := by rw [whole.stop]; rfl
  constructor
  -- The first lookback starts the earliest: before the window, where the end caps it.
  · intro inside
    have within := inside _ (firstEvaluation_mem whole positive first)
    rw [lookback_subset_span_iff whole positive] at within
    omega
  · intro fits e member
    have bounds := bounds_of_mem_evaluations positive member
    rw [lookback_subset_span_iff whole positive]
    omega

end Window

theorem step_le {s : Scenario} {d : Duration} (length : s.window? = some d) :
    step s ≤ max d.seconds hourStep := by
  have minute : minuteStep ≤ hourStep := by decide
  cases s with
  | top primaries k d' =>
    cases length
    exact max_le_max (le_refl _) (by decide)
  | hourlyAverage m scope count d' => exact le_max_right _ _
  | _ => exact le_max_of_le_right minute

theorem window_of_supports {s : Scenario} (supported : supports s = true) :
    ∃ d, s.window? = some d := by
  cases s with
  | lastPoint hosts => cases supported
  | lastPointPrimaries => cases supported
  | _ => exact ⟨_, rfl⟩

variable {σ : Type} [WordSource σ]

-- Neither the cast nor the sum leaves the signed numbers: the window starts in the calendar, and the
-- step is no longer than the longest time.
theorem firstEvaluation_of_drawWindow {s : Scenario} {d : Duration} {r w : TimeRange} {source : σ}
    (length : s.window? = some d) (drawn : (r.drawWindow d source).1 = .ok w) :
    firstEvaluation w (step s) = min (w.start.seconds + step s) w.stop.seconds := by
  have early := (inCalendar_iff _).1 (TimeRange.inCalendar_of_drawWindow drawn).1
  have short := (TimeRange.nanos_le_of_checked (TimeRange.drawWindow_eq_ok drawn).1).2
  have bound := step_le length
  have seconds : d.seconds ≤ Instant.longest / Duration.nanosPerSecond := Nat.div_le_div_right short
  simp only [Instant.longest, Duration.nanosPerSecond, hourStep] at seconds bound
  have limit : (Text.signedLimit : Int) = 9223372036854775808 := rfl
  have signed : Signed.ofNat (step s) = step s := Signed.ofNat_of_lt (by omega)
  rw [firstEvaluation, signed, Signed.saturatingAdd_eq (by omega) (by omega)]

theorem expression_top {primaries : Bool} {k : Nat} {d : Duration} {tags expr : String}
    (expressed : expression (.top primaries k d) tags = .ok expr) :
    ∃ series, expr = "topk(" ++ Text.numeral k ++ ", max by (" ++ EntityKind.host.tag ++
      ") (max_over_time(" ++ series ++ "[" ++ Text.numeral (wholeStep d) ++ "s])))" := by
  simp only [expression, Except.ok.injEq] at expressed
  exact ⟨_, expressed.symm⟩

theorem fill_selector_expressed {s : Scenario} {q q' : Query} {t : Sampler σ}
    (filled : (s.fill Compiler.selector q t).1 = .ok q') :
    ∃ d w tags expr, s.window? = some d ∧ (t.range.drawWindow d t.source).1 = .ok w ∧
      expression s tags = .ok expr ∧
      q'.payload = .selector expr (firstEvaluation w (step s)) w.stop.seconds (step s) := by
  change (s.fill (Backend.victoriaMetrics.compiler .separate) q t).1 = .ok q' at filled
  rw [Scenario.fill_eq] at filled
  by_cases supported : supports s = true
  · rw [Scenario.compile_of_supports .separate supported] at filled
    obtain ⟨body, compiled, rfl⟩ := Outcome.map_eq_ok.1 filled
    obtain ⟨x, tags, expr, drawn, expressed, put⟩ := compile_eq_ok compiled
    obtain ⟨d, length⟩ := window_of_supports supported
    obtain ⟨w, windowed, found⟩ := Scenario.draw_window length drawn
    exact ⟨d, w, tags, expr, length, found, expressed, put w windowed⟩
  · rw [Scenario.compile_of_not_supports .separate supported] at filled
    cases filled

theorem fill_selector_ok {s : Scenario} {q q' : Query} {t : Sampler σ}
    (filled : (s.fill Compiler.selector q t).1 = .ok q') :
    ∃ d w expr, s.window? = some d ∧ (t.range.drawWindow d t.source).1 = .ok w ∧
      q'.payload = .selector expr (firstEvaluation w (step s)) w.stop.seconds (step s) := by
  obtain ⟨d, w, _, expr, length, drawn, _, put⟩ := fill_selector_expressed filled
  exact ⟨d, w, expr, length, drawn, put⟩

/-- For a window of whole seconds there is an evaluation, and all of them lie in the window. What
they look back over lies in it just if the window is one step long at least, as it is for the highest
hosts of a cluster. -/
theorem lookbacks_within_iff {s : Scenario} {q q' : Query} {t : Sampler σ}
    (filled : (s.fill Compiler.selector q t).1 = .ok q') :
    ∃ d w expr start stop, s.window? = some d ∧ (t.range.drawWindow d t.source).1 = .ok w ∧
      q'.payload = .selector expr start stop (step s) ∧
      (w.start.nanos = 0 → d.subsecond = 0 →
        evaluations start stop (step s) ≠ [] ∧
        (∀ e ∈ evaluations start stop (step s), w.start.seconds < e ∧ e ≤ w.stop.seconds) ∧
        ((∀ e ∈ evaluations start stop (step s), lookback (step s) e ⊆ w.span) ↔
          step s ≤ d.seconds) ∧
        ∀ primaries k, s = .top primaries k d → step s ≤ d.seconds) := by
  obtain ⟨d, w, expr, length, drawn, put⟩ := fill_selector_ok filled
  refine ⟨d, w, expr, _, _, length, drawn, put, fun start seconds => ?_⟩
  have whole := TimeRange.whole_of_drawWindow drawn start seconds
  have positive := step_pos s
  have first := firstEvaluation_of_drawWindow length drawn
  refine ⟨List.ne_nil_of_mem (firstEvaluation_mem whole positive first), fun e member => ?_,
    lookbacks_subset_span_iff whole positive first, ?_⟩
  · have ends := firstEvaluation_bounds whole positive first
    have bounds := bounds_of_mem_evaluations positive member
    omega
  · rintro primaries k rfl
    exact step_top_le whole.positive

theorem lookbacks_within_of_two_hours :
    let s : Scenario := .hourlyAverage (.exactly 2) .hosts 1 (.ofSeconds 7200)
    let t : Sampler Script :=
      ⟨⟨.ofSeconds (-3600), .ofSeconds 7200⟩, ⟨1, 2, 2, 1, 1⟩, .ofList [18446744073709551615, 5]⟩
    ∃ q' expr start stop, (s.fill Compiler.selector (Query.new 4) t).1 = .ok q' ∧
      q'.payload = .selector expr start stop 3600 ∧ evaluations start stop 3600 ≠ [] ∧
        ∀ e ∈ evaluations start stop 3600,
          lookback 3600 e ⊆ TimeRange.span ⟨.ofSeconds 0, .ofSeconds 7200⟩ := by
  intro s t
  have done : (s.fill Compiler.selector (Query.new 4) t).1.isOk = true := by decide +kernel
  have window : (t.range.drawWindow (.ofSeconds 7200) t.source).1 =
      .ok ⟨.ofSeconds 0, .ofSeconds 7200⟩ := by decide +kernel
  cases filled : (s.fill Compiler.selector (Query.new 4) t).1 with
  | error why =>
    rw [filled] at done
    cases done
  | ok q' =>
    obtain ⟨d, w, expr, start, stop, length, drawn, put, evaluated⟩ := lookbacks_within_iff filled
    cases length
    rw [window] at drawn
    cases drawn
    obtain ⟨nonempty, _, within, _⟩ := evaluated rfl rfl
    exact ⟨q', expr, start, stop, rfl, put, nonempty, within.2 (by decide)⟩

theorem lookback_before_window :
    let s : Scenario := .allMetrics .hosts 1 (.ofSeconds 30)
    let t : Sampler Script :=
      ⟨⟨.ofSeconds 0, .ofSeconds 30⟩, ⟨1, 1, 1, 1, 1⟩, .ofList [0]⟩
    let w : TimeRange := ⟨.ofSeconds 0, .ofSeconds 30⟩
    (t.range.drawWindow (.ofSeconds 30) t.source).1 = .ok w ∧
      (∃ expr, (s.fill Compiler.selector (Query.new 0) t).1.map (fun q => q.payload) =
        .ok (.selector expr 30 30 60)) ∧
      30 ∈ evaluations 30 30 60 ∧ ¬ lookback 60 30 ⊆ w.span := by
  refine ⟨by decide, ⟨_, rfl⟩, by decide, fun inside => ?_⟩
  -- The end of the window is the only evaluation, and it looks back to 30 s before the window. The
  -- window itself starts after 0 ns.
  have early : (0 : Int) ∈ lookback 60 30 := by simp [lookback]
  exact absurd (inside early).1 (by decide)

end Selector

end QueryWorkload
