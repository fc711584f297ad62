import QueryWorkload.Random.ChaCha
import QueryWorkload.Proofs.Sampling

set_option autoImplicit false

namespace QueryWorkload

open Outcome

inductive Request where
  | window (length : Duration)
  | names (kind : EntityKind) (count : Nat)
  deriving DecidableEq, Repr

inductive Answer where
  | window (window : TimeRange)
  | names (names : List String)
  deriving DecidableEq, Repr

namespace Request

def check (r : TimeRange) (p : Population) : Request → Except Failure Unit
  | .window d => (r.checkWindow d).mapError Failure.refused
  | .names kind count => p.check kind count

def fault : Request → Fault
  | .window _ => .pastCalendar
  | .names _ _ => .pastMemory

variable {σ : Type} [WordSource σ]

def put : Request → Sampling σ Answer
  | .window d => do return .window (← Sampling.window d)
  | .names kind count => do return .names (← Sampling.names kind count)

theorem put_window (d : Duration) (t : Sampler σ) :
    (window d).put t =
      ((t.range.drawWindow d t.source).1.map Answer.window,
        { t with source := (t.range.drawWindow d t.source).2 }) := by
  rw [put, Sampling.bind_pure_apply, Sampling.window_apply]

theorem put_names {kind : EntityKind} {t : Sampler σ} {total : Nat}
    (known : t.population.total kind = .ok total) (count : Nat) :
    (names kind count).put t =
      ((Names.draw kind count total t.source).1.map Answer.names,
        { t with source := (Names.draw kind count total t.source).2 }) := by
  rw [put, Sampling.bind_pure_apply, Sampling.names_of_total_ok known]

theorem check_names {kind : EntityKind} {p : Population} {total : Nat}
    (known : p.total kind = .ok total) (r : TimeRange) (count : Nat) :
    (names kind count).check r p = (checkCount kind.word count total).mapError Failure.refused := by
  rw [check, Population.check, known, mapError_ok, ok_bind]

theorem keeps_put (q : Request) : Sampling.Keeps (q.put : Sampling σ Answer) := by
  cases q with
  | window d => exact fun t => by rw [put_window]; exact ⟨rfl, rfl⟩
  | names kind count =>
    exact (Sampling.keeps_names kind count).bind fun _ => Sampling.keeps_pure _

theorem put_of_refused {q : Request} {t : Sampler σ} {why : Failure}
    (refused : q.check t.range t.population = .error why) : q.put t = (.error why, t) := by
  cases q with
  | window d =>
    obtain ⟨cause, unfit, rfl⟩ := mapError_eq_error.1 refused
    rw [put_window, TimeRange.drawWindow_of_refused unfit]
    rfl
  | names kind count =>
    cases known : t.population.total kind with
    | error cause =>
      rw [check, Population.check, known] at refused
      cases refused
      simp only [put, Sampling.bind_pure_apply, Sampling.names, known]
      rfl
    | ok total =>
      rw [check_names known] at refused
      -- The count is the first thing that is checked of names, and no fault can come before it.
      have checked : Names.check kind count total = .error why := by
        rw [Names.check, bind_eq_error]
        exact .inl refused
      rw [put_names known, Names.draw_of_error checked]
      rfl

theorem put_window_of_checked {d : Duration} {t : Sampler σ}
    (checked : (window d).check t.range t.population = .ok ()) :
    ((window d).put t).1 =
      if (t.range.windowAt d (t.range.drawOffset d t.source).1).start.inCalendar &&
          (t.range.windowAt d (t.range.drawOffset d t.source).1).stop.inCalendar then
        .ok (.window (t.range.windowAt d (t.range.drawOffset d t.source).1))
      else .error (.fault .pastCalendar) := by
  rw [put_window, TimeRange.drawWindow_of_checked (mapError_eq_ok.1 checked)]
  split <;> rfl

theorem put_names_of_checked {kind : EntityKind} {count total : Nat} {t : Sampler σ}
    (known : t.population.total kind = .ok total)
    (checked : (names kind count).check t.range t.population = .ok ()) :
    ((names kind count).put t).1 =
      if total * Names.indexSize < Text.signedLimit then
        .ok (.names ((Shuffle.chosen count total (Shuffle.draw count total t.source).1).map
          (Names.name kind)))
      else .error (.fault .pastMemory) := by
  rw [check_names known] at checked
  rw [put_names known]
  split_ifs with held
  · have fits : Names.check kind count total = .ok () :=
      (Names.check_ok_iff _ _ _).2 ⟨mapError_eq_ok.1 checked, (Fault.checkMemory_ok_iff _ _).2 held⟩
    rw [Names.draw_of_ok fits]
    rfl
  · have past : Names.check kind count total = .error (.fault .pastMemory) := by
      rw [Names.check, checked, ok_bind, Fault.checkMemory, if_neg held]
      rfl
    rw [Names.draw_of_error past]
    rfl

theorem put_of_checked {q : Request} {t : Sampler σ}
    (checked : q.check t.range t.population = .ok ()) :
    (∃ a, (q.put t).1 = .ok a) ∨ (q.put t).1 = .error (.fault q.fault) := by
  cases q with
  | window d =>
    rw [put_window_of_checked checked]
    split
    · exact .inl ⟨_, rfl⟩
    · exact .inr rfl
  | names kind count =>
    cases known : t.population.total kind with
    | error cause =>
      rw [check, Population.check, known] at checked
      cases checked
    | ok total =>
      rw [put_names_of_checked known checked]
      split
      · exact .inl ⟨_, rfl⟩
      · exact .inr rfl

structure Follows (q : Request) (r : TimeRange) (p : Population) (result : Except Failure Answer) :
    Prop where
  of_refused : ∀ why, q.check r p = .error why → result = .error why
  of_failed : ∀ why, result = .error why → q.check r p = .error why ∨ why = .fault q.fault

def FailsAsChecked (q : Request) (r : TimeRange) (p : Population) (result : Except Failure Answer) :
    Prop :=
  ∀ why, result = .error why ↔ q.check r p = .error why

theorem put_follows (q : Request) (t : Sampler σ) :
    q.Follows t.range t.population (q.put t).1 := by
  constructor
  · intro why refused
    rw [put_of_refused refused]
  · intro why failed
    cases checked : q.check t.range t.population with
    | error cause =>
      rw [put_of_refused checked] at failed
      cases failed
      exact .inl rfl
    | ok _ =>
      rcases put_of_checked checked with ⟨a, answered⟩ | fault
      · rw [answered] at failed
        cases failed
      · rw [fault] at failed
        cases failed
        exact .inr rfl

theorem put_failsAsChecked_iff (q : Request) (t : Sampler σ) :
    q.FailsAsChecked t.range t.population (q.put t).1 ↔
      (q.check t.range t.population = .ok () → ∃ a, (q.put t).1 = .ok a) := by
  constructor
  · intro fails checked
    cases result : (q.put t).1 with
    | error why =>
      rw [(fails why).1 result] at checked
      cases checked
    | ok a => exact ⟨a, rfl⟩
  · intro answers why
    cases checked : q.check t.range t.population with
    | error cause =>
      rw [put_of_refused checked]
      simp
    | ok _ =>
      obtain ⟨a, answered⟩ := answers checked
      rw [answered]
      simp

end Request

abbrev Transcript := List (Request × Except Failure Answer)

section Runs

variable {σ : Type} [WordSource σ]

def Sampler.serve : List Request → Sampler σ → Transcript × Sampler σ
  | [], t => ([], t)
  | q :: rest, t =>
    ((q, (q.put t).1) :: (serve rest (q.put t).2).1, (serve rest (q.put t).2).2)

theorem serve_requests (qs : List Request) (t : Sampler σ) :
    (t.serve qs).1.map Prod.fst = qs := by
  induction qs generalizing t with
  | nil => rfl
  | cons q qs ih =>
    rw [Sampler.serve, List.map_cons, ih]

variable {r : TimeRange} {p : Population}

-- The range and the population are those of the start all along, so what holds of one request
-- whatever the source holds of each.
theorem serve_forall {P : Request → Except Failure Answer → Prop}
    (one : ∀ t : Sampler σ, t.range = r → t.population = p → ∀ q, P q (q.put t).1)
    {t : Sampler σ} (range : t.range = r) (population : t.population = p) (qs : List Request) :
    ∀ e ∈ (t.serve qs).1, P e.1 e.2 := by
  induction qs generalizing t with
  | nil => exact fun e member => absurd member List.not_mem_nil
  | cons q qs ih =>
    have kept := q.keeps_put t
    intro e member
    rw [Sampler.serve, List.mem_cons] at member
    cases member with
    | inl first =>
      rw [first]
      exact one t range population q
    | inr later => exact ih (kept.1.trans range) (kept.2.trans population) e later

theorem serve_follows {t : Sampler σ} (range : t.range = r) (population : t.population = p)
    (qs : List Request) : ∀ e ∈ (t.serve qs).1, e.1.Follows r p e.2 := by
  refine serve_forall (P := fun q result => q.Follows r p result) ?_ range population qs
  intro u same same' q
  rw [← same, ← same']
  exact q.put_follows u

def Request.Passes (r : TimeRange) (p : Population) (q : Request) : Bool :=
  (q.check r p).isOk

theorem serve_passing {t : Sampler σ} (range : t.range = r) (population : t.population = p)
    (qs : List Request) :
    t.serve (qs.filter (·.Passes r p)) =
      ((t.serve qs).1.filter (·.1.Passes r p), (t.serve qs).2) := by
  induction qs generalizing t with
  | nil => rfl
  | cons q qs ih =>
    have kept := q.keeps_put t
    have later := ih (kept.1.trans range) (kept.2.trans population)
    cases checked : q.check r p with
    | error why =>
      have skipped : q.Passes r p = false := by rw [Request.Passes, checked]; rfl
      -- A request that is left out has not moved the sampler.
      rw [← range, ← population] at checked
      have still : (q.put t).2 = t := by rw [Request.put_of_refused checked]
      rw [still] at later
      rw [List.filter_cons_of_neg (by simp [skipped]), later, Sampler.serve, still,
        List.filter_cons_of_neg (by simp [skipped])]
    | ok _ =>
      have passes : q.Passes r p = true := by rw [Request.Passes, checked]; rfl
      rw [List.filter_cons_of_pos passes]
      simp only [Sampler.serve, later, List.filter_cons, passes, if_true]

structure Undisturbed (qs : List Request) (t : Sampler σ) : Prop where
  failsAsChecked : ∀ e ∈ (t.serve qs).1, e.1.FailsAsChecked t.range t.population e.2
  without_failed :
    t.serve (((t.serve qs).1.filter (·.2.isOk)).map Prod.fst) =
      ((t.serve qs).1.filter (·.2.isOk), (t.serve qs).2)

theorem undisturbed_of_failsAsChecked {t : Sampler σ} {qs : List Request}
    (fails : ∀ e ∈ (t.serve qs).1, e.1.FailsAsChecked t.range t.population e.2) :
    Undisturbed qs t where
  failsAsChecked := fails
  without_failed := by
    have same : (t.serve qs).1.filter (·.2.isOk) =
        (t.serve qs).1.filter (·.1.Passes t.range t.population) := by
      apply List.filter_congr
      intro e member
      exact isOk_eq_of_error_iff (fails e member)
    have passing := serve_passing rfl rfl qs (t := t)
    have asked := congrArg (List.filter (·.Passes t.range t.population)) (serve_requests qs t)
    rw [List.filter_map] at asked
    rw [same, ← passing, ← asked]
    rfl

end Runs

theorem undisturbed_iff (r : TimeRange) (p : Population) :
    (∀ (σ : Type) [WordSource σ] (s : σ) (qs : List Request), Undisturbed qs ⟨r, p, s⟩) ↔
      ∀ (σ : Type) [WordSource σ] (s : σ) (q : Request), q.check r p = .ok () →
        ∃ a, (q.put ⟨r, p, s⟩).1 = .ok a := by
  constructor
  · intro undisturbed σ _ s q
    have fails := (undisturbed σ s [q]).failsAsChecked (q, (q.put ⟨r, p, s⟩).1)
      List.mem_cons_self
    exact (q.put_failsAsChecked_iff ⟨r, p, s⟩).1 fails
  · intro answers σ _ s qs
    apply undisturbed_of_failsAsChecked
    refine serve_forall (P := fun q result => q.FailsAsChecked r p result) ?_ rfl rfl qs
    intro t range population q
    obtain ⟨_, _, source⟩ := t
    subst range
    subst population
    exact (q.put_failsAsChecked_iff _).2 (answers σ source q)

namespace TimeRange

open Instant

-- The calendar goes on after the last second of the range, or no window can be so late that it
-- needs it to.
def KeepsToCalendar (r : TimeRange) : Prop :=
  inCalendar ⟨r.stop.seconds + 1, 0⟩ = true ∨ r.stop.seconds ≤ r.start.seconds ∨
    r.start.nanos + r.stop.nanos < second

variable {r : TimeRange}

theorem Plain.windowAt_inCalendar_of_keeps {d : Duration} (plain : r.Plain)
    (fits : (d.nanos : Int) ≤ r.stop.since r.start) (keeps : r.KeepsToCalendar) {offset : Nat}
    (offered : offset ≤ r.lastOffset d) :
    (r.windowAt d offset).start.inCalendar = true ∧
      (r.windowAt d offset).stop.inCalendar = true := by
  cases keeps with
  | inl room => exact plain.windowAt_inCalendar fits offered room
  | inr early =>
    have order := plain.start_le_latestStart fits
    have last := plain.lastOffset_eq fits
    have latest := plain.latestStart_toNanos (d := d)
    have start := plain.start_nanos
    have stop := plain.stop_nanos
    have first := (inCalendar_iff _).1 plain.start_inCalendar
    have final := (inCalendar_iff _).1 plain.stop_inCalendar
    rw [plain.windowAt_start, plain.windowAt_stop]
    simp only [inCalendar_iff, ofNanos, toNanos, second] at *
    omega

-- A window as long as the last second of the range starts on a second when it ends with the range.
-- Drawn by counting seconds from the start of the range, it is late by what the start is.
theorem Plain.exists_drawWindow_past (plain : r.Plain) (goes : ¬ r.KeepsToCalendar) :
    ∃ d, r.checkWindow d = .ok () ∧
      (r.drawWindow d greatestWords).1 = .error (.fault .pastCalendar) := by
  obtain ⟨ended, started, late⟩ : ¬ inCalendar ⟨r.stop.seconds + 1, 0⟩ = true ∧
      r.start.seconds < r.stop.seconds ∧ second ≤ r.start.nanos + r.stop.nanos := by
    simpa [KeepsToCalendar] using goes
  obtain ⟨d, length⟩ : ∃ d : Duration, d.nanos = r.stop.nanos := ⟨⟨r.stop.nanos⟩, rfl⟩
  have start := plain.start_nanos
  have fits : (d.nanos : Int) ≤ r.stop.since r.start := by
    rw [since_eq_sub plain.stop_nanos start]
    simp only [toNanos, second] at *
    omega
  have checked := plain.checkWindow_of_fits (by omega) fits
  have last := plain.lastOffset_eq fits
  have latest := plain.latestStart_toNanos (d := d)
  have short := plain.latestStart_nanos_lt (d := d)
  have final := plain.stop_inCalendar
  have past : ¬ (r.windowAt d (r.lastOffset d)).stop.inCalendar = true := by
    rw [plain.windowAt_stop]
    simp only [inCalendar_iff, ofNanos, toNanos, second] at *
    omega
  refine ⟨d, checked, ?_⟩
  rw [drawWindow_of_checked checked, plain.drawOffset_greatestWords fits]
  simp [past]

end TimeRange

def Population.HeldInMemory (p : Population) : Prop :=
  ∀ kind total, p.total kind = .ok total → total * Names.indexSize < Text.signedLimit

theorem answers_iff {r : TimeRange} (plain : r.Plain) (p : Population) :
    (∀ (σ : Type) [WordSource σ] (s : σ) (q : Request), q.check r p = .ok () →
      ∃ a, (q.put ⟨r, p, s⟩).1 = .ok a) ↔ r.KeepsToCalendar ∧ p.HeldInMemory := by
  constructor
  · intro answers
    constructor
    · by_contra goes
      obtain ⟨d, checked, past⟩ := plain.exists_drawWindow_past goes
      obtain ⟨a, answered⟩ := answers Script TimeRange.greatestWords (.window d)
        (mapError_eq_ok.2 checked)
      rw [Request.put_window, past] at answered
      cases answered
    · intro kind total known
      by_contra full
      have positive : 1 ≤ total := by
        apply Nat.pos_of_ne_zero
        intro zero
        rw [zero] at full
        exact full (by decide)
      have checked : (Request.names kind 1).check r p = .ok () := by
        rw [Request.check_names known, mapError_eq_ok, checkCount_ok_iff]
        exact ⟨Nat.le_refl 1, positive⟩
      obtain ⟨a, answered⟩ := answers Script TimeRange.greatestWords (.names kind 1) checked
      rw [Request.put_names_of_checked (t := ⟨r, p, _⟩) known checked, if_neg full] at answered
      cases answered
  · intro ⟨keeps, held⟩ σ _ s q checked
    cases q with
    | window d =>
      have fits := (TimeRange.nanos_le_of_checked (mapError_eq_ok.1 checked)).1
      obtain ⟨first, final⟩ := plain.windowAt_inCalendar_of_keeps fits keeps (r.drawOffset_le d s)
      rw [Request.put_window_of_checked (t := ⟨r, p, s⟩) checked]
      exact ⟨_, if_pos (by simp only [first, final, Bool.and_self])⟩
    | names kind count =>
      cases known : p.total kind with
      | error why =>
        rw [Request.check, Population.check, known] at checked
        cases checked
      | ok total =>
        rw [Request.put_names_of_checked (t := ⟨r, p, s⟩) known checked]
        exact ⟨_, if_pos (held kind total known)⟩

/-- Away from leap seconds, all runs go as the checks say just if the range keeps to the calendar and
the population fits into memory. In any run at all, a request that fails its check fails with that
error, and it can be left out with no change to the other results or to the sampler that is left; a
request that fails in spite of its check has a window past the calendar or names past memory. -/
theorem undisturbed_iff_keeps (r : TimeRange) (p : Population) :
    (r.Plain →
      ((∀ (σ : Type) [WordSource σ] (s : σ) (qs : List Request), Undisturbed qs ⟨r, p, s⟩) ↔
        r.KeepsToCalendar ∧ p.HeldInMemory)) ∧
    ∀ (σ : Type) [WordSource σ] (s : σ) (qs : List Request),
      let t : Sampler σ := ⟨r, p, s⟩
      (∀ e ∈ (t.serve qs).1, e.1.Follows r p e.2) ∧
      t.serve (qs.filter (·.Passes r p)) =
        ((t.serve qs).1.filter (·.1.Passes r p), (t.serve qs).2) := by
  constructor
  · intro plain
    exact (undisturbed_iff r p).trans (answers_iff plain p)
  · intro σ _ s qs t
    exact ⟨serve_follows (t := t) rfl rfl qs, serve_passing (t := t) rfl rfl qs⟩

theorem undisturbed_of_refused :
    let r : TimeRange := ⟨⟨-7, 250000000⟩, ⟨7, 750000000⟩⟩
    let t : Sampler ChaCha := ⟨r, .standard, .ofSeed 7⟩
    let qs : List Request :=
      [.window ⟨0⟩, .names .cluster 3, .names .group 101, .window ⟨1500000000⟩]
    (t.serve qs).1.map (·.2.isOk) = [false, true, false, true] ∧ Undisturbed qs t := by
  intro r t qs
  have plain : r.Plain := ⟨by decide, by decide, by decide, by decide⟩
  have keeps : r.KeepsToCalendar := .inl (by decide)
  have held : Population.standard.HeldInMemory := by
    intro kind total known
    cases kind <;> cases known <;> decide
  exact ⟨by decide +kernel,
    ((undisturbed_iff_keeps r .standard).1 plain).2 ⟨keeps, held⟩ ChaCha (.ofSeed 7) qs⟩

/-- The range ends with the last second of the calendar. A window of 1.1 s fits into its 1.2 s, at the
start only, but is drawn a second later, past the calendar. -/
theorem disturbed_past_calendar :
    let r : TimeRange := ⟨⟨8210266876797, 900000000⟩, ⟨8210266876799, 100000000⟩⟩
    let t : Sampler ChaCha := ⟨r, ⟨1, 1, 1, 1, 1⟩, .ofSeed 0⟩
    let q : Request := .window ⟨1100000000⟩
    q.check t.range t.population = .ok () ∧
      (t.serve [q]).1 = [(q, .error (.fault .pastCalendar))] ∧
      (r.windowAt ⟨1100000000⟩ 0).Within r ∧ ¬ Undisturbed [q] t := by
  intro r t q
  have checked : q.check t.range t.population = .ok () := by decide
  have served : (t.serve [q]).1 = [(q, .error (.fault .pastCalendar))] := by decide +kernel
  refine ⟨checked, served, ⟨by decide, by decide⟩, ?_⟩
  intro undisturbed
  have fails := undisturbed.failsAsChecked (q, .error (.fault .pastCalendar))
    (by rw [served]; exact List.mem_cons_self)
  rw [(fails _).1 rfl] at checked
  cases checked

end QueryWorkload
