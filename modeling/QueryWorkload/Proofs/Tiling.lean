import Mathlib
import QueryWorkload.Proofs.Evaluation

set_option autoImplicit false

namespace QueryWorkload

open Instant

theorem TimeRange.stop_of_drawWindow {σ : Type} [WordSource σ] {r w : TimeRange} {d : Duration}
    {s : σ} {n : Nat} (short : r.start.nanos < 2 * second) (whole : d.nanos = n * second)
    (drawn : (r.drawWindow d s).1 = .ok w) : w.stop.seconds = w.start.seconds + n := by
  obtain ⟨_, placed⟩ := drawWindow_eq_ok drawn
  have start : w.start.nanos < 2 * second := by
    rw [placed]
    exact (plus_bounds short _).1
  have stop : w.stop = w.start.plus (n * second : Nat) := by rw [placed, ← whole]; rfl
  rw [stop, seconds_plus start]

namespace Selector

def stepEnds (a : Int) (step : Nat) : Nat → List Int
  | 0 => []
  | n + 1 => stepEnds a step n ++ [a + (n + 1 : Nat) * step]

theorem length_stepEnds (a : Int) (step n : Nat) : (stepEnds a step n).length = n := by
  induction n with
  | zero => rfl
  | succ n ih => simp [stepEnds, ih]

theorem stepEnds_eq_map (a : Int) (step n : Nat) :
    stepEnds a step n = (List.range n).map fun i : Nat => a + step + i * step := by
  induction n with
  | zero => rfl
  | succ n ih =>
    have last : a + (n + 1 : Nat) * step = a + step + n * step := by
      rw [Int.natCast_add, Int.add_mul]
      omega
    simp only [stepEnds, ih, last, List.range_succ, List.map_append, List.map_cons, List.map_nil]

theorem evaluations_eq_stepEnds {step : Nat} (positive : 0 < step) (a : Int) (n : Nat) :
    evaluations (a + step) (a + n * step) step = stepEnds a step n := by
  have divisor : (step : Int) ≠ 0 := by omega
  have span : a + n * step - (a + step) = (n - 1 : Int) * step := by
    rw [Int.sub_mul]
    omega
  have count : ((a + n * step - (a + step)) / step + 1).toNat = n := by
    rw [span, Int.mul_ediv_cancel _ divisor]
    omega
  rw [evaluations, count, stepEnds_eq_map]

-- What some evaluations look back over, from second `a` to second `b`, with nothing read twice.
structure Tiles (instants : List Int) (step : Nat) (a b : Int) : Prop where
  apart : instants.Pairwise fun e e' => Disjoint (lookback step e) (lookback step e')
  cover : ⋃ e ∈ instants, lookback step e = Set.Ioc (a * second) (b * second)

theorem lookback_eq_ioc (step : Nat) (e : Int) :
    lookback step e = Set.Ioc ((e - step) * second) (e * second) := rfl

theorem tiles_nil (step : Nat) (a : Int) : Tiles [] step a a where
  apart := .nil
  cover := by simp

theorem Tiles.concat {instants : List Int} {step : Nat} {a b : Int} (tiles : Tiles instants step a b)
    (ordered : a ≤ b) : Tiles (instants ++ [b + step]) step a (b + step) := by
  have next : lookback step (b + step) = Set.Ioc (b * second) ((b + step) * second) := by
    rw [lookback_eq_ioc, Int.add_sub_cancel]
  constructor
  · have fresh : ∀ e ∈ instants, Disjoint (lookback step e) (lookback step (b + step)) := by
      intro e member
      have inside : lookback step e ⊆ Set.Ioc (a * second) (b * second) := by
        rw [← tiles.cover]
        exact Set.subset_biUnion_of_mem (u := fun e => lookback step e) member
      rw [next]
      exact (Set.Ioc_disjoint_Ioc_of_le le_rfl).mono_left inside
    simpa [List.pairwise_append, tiles.apart] using fresh
  · have early : a * second ≤ b * second := by
      simp only [second]
      omega
    have late : b * second ≤ (b + step) * second := by
      simp only [second]
      omega
    simp only [List.mem_append, List.mem_singleton, Set.iUnion_or, Set.iUnion_union_distrib,
      Set.iUnion_iUnion_eq_left, tiles.cover, next, Set.Ioc_union_Ioc_eq_Ioc early late]

theorem tiles_stepEnds (a : Int) (step n : Nat) : Tiles (stepEnds a step n) step a (a + n * step) := by
  induction n with
  | zero => simpa [stepEnds] using tiles_nil step a
  | succ n ih =>
    have steps := Int.mul_nonneg (Int.natCast_nonneg n) (Int.natCast_nonneg step)
    have last : a + (n + 1 : Nat) * step = a + n * step + step := by
      rw [Int.natCast_add, Int.add_mul]
      omega
    rw [stepEnds, last]
    exact ih.concat (by omega)

theorem firstEvaluation_eq {w : TimeRange} {step n : Nat} (positive : 1 ≤ n)
    (stop : w.stop.seconds = w.start.seconds + (n * step : Nat))
    (first : firstEvaluation w step = min (w.start.seconds + step) w.stop.seconds) :
    firstEvaluation w step = w.start.seconds + step := by
  have one : step ≤ n * step := Nat.le_mul_of_pos_left step positive
  rw [first, stop]
  omega

theorem getLast?_stepEnds (a : Int) (step : Nat) {n : Nat} (positive : 1 ≤ n) :
    (stepEnds a step n).getLast? = some (a + n * step) := by
  obtain ⟨n, rfl⟩ : ∃ m, n = m + 1 := ⟨n - 1, by omega⟩
  simp [stepEnds]

def resolution : Scenario → Nat
  | .hourlyAverage _ _ _ _ => 3600
  | .top _ _ d => d.seconds
  | _ => 60

theorem step_eq_resolution {s : Scenario} (positive : 0 < resolution s) :
    step s = resolution s := by
  cases s with
  | top primaries k d => exact Nat.max_eq_left positive
  | _ => rfl

theorem one_of_top {primaries : Bool} {k n : Nat} {d : Duration} (positive : 0 < d.seconds)
    (steps : d.nanos = n * resolution (.top primaries k d) * second) : n = 1 := by
  have seconds : d.seconds = n * d.seconds := by
    conv_lhs => rw [Duration.seconds, steps]
    exact Nat.mul_div_cancel _ (by decide)
  exact (Nat.mul_eq_right (by omega)).1 seconds.symm

variable {σ : Type} [WordSource σ]

/-- A window of `n` steps is evaluated `n` times, from the end of its first step to its own end, and
the lookbacks are the steps of the window. For the highest hosts of a cluster the step is the window,
and the expression looks back over all of it. -/
theorem evaluations_tile {s : Scenario} {d : Duration} {n : Nat} {q q' : Query} {t : Sampler σ}
    (short : t.range.start.nanos < 2 * second) (length : s.window? = some d)
    (steps : d.nanos = n * resolution s * second)
    (filled : (s.fill Compiler.selector q t).1 = .ok q') :
    ∃ w expr start stop, (t.range.drawWindow d t.source).1 = .ok w ∧
      q'.payload = .selector expr start stop (resolution s) ∧
      start = w.start.seconds + resolution s ∧ stop = w.start.seconds + n * resolution s ∧
      stop = w.stop.seconds ∧
      (evaluations start stop (resolution s)).length = n ∧
      (evaluations start stop (resolution s)).getLast? = some stop ∧
      Tiles (evaluations start stop (resolution s)) (resolution s) w.start.seconds stop ∧
      ∀ primaries k, s = .top primaries k d →
        evaluations start stop (resolution s) = [w.stop.seconds] ∧
          ∃ lead, expr = lead ++ "[" ++ Text.numeral (resolution s) ++ "s])))" := by
  obtain ⟨d', w, tags, expr, length', drawn, expressed, put⟩ := fill_selector_expressed filled
  obtain rfl : d = d' := Option.some.inj (length.symm.trans length')
  -- A window has a length, so it has a step, and the step is one of whole seconds.
  have positive := ((TimeRange.checkWindow_ok_iff _ _).1 (TimeRange.drawWindow_eq_ok drawn).1).1
  rw [steps] at positive
  have product := Nat.pos_of_mul_pos_right positive
  have several : 1 ≤ n := Nat.pos_of_mul_pos_right product
  have long : 0 < resolution s := Nat.pos_of_mul_pos_left product
  have stop := TimeRange.stop_of_drawWindow short steps drawn
  have first := firstEvaluation_of_drawWindow length drawn
  rw [step_eq_resolution long] at first put
  rw [firstEvaluation_eq several stop first, stop, Int.natCast_mul] at put
  rw [Int.natCast_mul] at stop
  have tiled := evaluations_eq_stepEnds long w.start.seconds n
  refine ⟨w, expr, _, _, drawn, put, rfl, rfl, stop.symm, ?_, ?_, ?_, ?_⟩
  · rw [tiled, length_stepEnds]
  · rw [tiled, getLast?_stepEnds _ _ several]
  · rw [tiled]
    exact tiles_stepEnds _ _ _
  · intro primaries k ranked
    subst ranked
    have one := one_of_top long steps
    obtain ⟨series, same⟩ := expression_top expressed
    constructor
    · rw [tiled, stop, one]
      rfl
    · rw [← step_eq_resolution long]
      exact ⟨_, same⟩

-- Neither end of the range is at the start of a second.
theorem evaluations_tile_of_two_hours :
    let s : Scenario := .hourlyAverage (.exactly 2) .hosts 1 (.ofSeconds 7200)
    let t : Sampler Script :=
      ⟨⟨⟨-3600, 250000000⟩, ⟨7200, 750000000⟩⟩, ⟨1, 2, 2, 1, 1⟩,
        .ofList [18446744073709551615, 5]⟩
    ∃ q' expr, (s.fill Compiler.selector (Query.new 4) t).1 = .ok q' ∧
      q'.payload = .selector expr 3600 7200 3600 ∧ (evaluations 3600 7200 3600).length = 2 ∧
        Tiles (evaluations 3600 7200 3600) 3600 0 7200 := by
  intro s t
  have done : (s.fill Compiler.selector (Query.new 4) t).1.isOk = true := by decide +kernel
  have window : (t.range.drawWindow (.ofSeconds 7200) t.source).1 =
      .ok ⟨⟨0, 250000000⟩, ⟨7200, 250000000⟩⟩ := by decide +kernel
  obtain ⟨q', filled⟩ := Outcome.exists_of_isOk done
  obtain ⟨w, expr, start, stop, drawn, put, first, last, _, count, _, tiles, _⟩ :=
    evaluations_tile (n := 2) (by decide) rfl (by decide) filled
  rw [window] at drawn
  cases drawn
  cases first
  cases last
  exact ⟨q', expr, filled, put, count, tiles⟩

end Selector

end QueryWorkload
