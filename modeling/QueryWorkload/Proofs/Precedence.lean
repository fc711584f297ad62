import QueryWorkload.CommandLine.Overrides
import QueryWorkload.Proofs.Outcome

set_option autoImplicit false

namespace QueryWorkload

namespace Settings

inductive Ending where
  | instant (stop : Instant)
  | span (text : String)

def Ending.Reaches (start stop : Instant) : Ending → Prop
  | .instant t => stop = t
  | .span text =>
    ∃ d, Span.read text = .ok d ∧ d.seconds ≤ longestSpan ∧ stop.inCalendar = true ∧
      stop = start.plus d.nanos

def ending (c : Settings) : Ending :=
  match c.span with
  | some text => .span text
  | none => .instant c.stop

theorem rangeEnd_ok_iff {c : Settings} {stop : Instant} :
    c.rangeEnd = .ok stop ↔ c.ending.Reaches c.start stop := by
  unfold rangeEnd ending
  cases c.span with
  | none => exact ⟨fun h => (Except.ok.inj h).symm, fun h => congrArg _ h.symm⟩
  | some text =>
    simp only [Ending.Reaches]
    cases read : Span.read text with
    | error cause => simp
    | ok d =>
      simp only [Except.ok.injEq, exists_eq_left']
      by_cases long : longestSpan < d.seconds
      · simp [long, Nat.not_le_of_lt long]
      · by_cases inside : (c.start.plus d.nanos).inCalendar = true
        · simp only [long, inside, if_false, if_true, Except.ok.injEq]
          constructor
          · rintro rfl
            exact ⟨Nat.le_of_not_lt long, inside, rfl⟩
          · rintro ⟨_, _, rfl⟩
            rfl
        · simp only [long, inside, if_false, reduceCtorEq, false_iff]
          rintro ⟨_, within, rfl⟩
          exact inside within

theorem range_ok_iff {c : Settings} {r : TimeRange} :
    c.range = .ok r ↔
      r.start = c.start ∧ c.ending.Reaches c.start r.stop ∧ r.stop.before r.start = false := by
  obtain ⟨start, stop⟩ := r
  simp only [range, Outcome.bind_eq_ok, Outcome.mapError_eq_ok, rangeEnd_ok_iff, TimeRange.make]
  constructor
  · rintro ⟨t, reached, made⟩
    split at made
    · cases made
    next inOrder =>
      cases made
      exact ⟨rfl, reached, by simpa using inOrder⟩
  · rintro ⟨rfl, reached, inOrder⟩
    exact ⟨stop, reached, by simp [inOrder]⟩

end Settings

namespace CommandLine

namespace Flag

def Value : Flag → Type
  | .config | .useCase | .queryType | .span | .output => String
  | .format => Backend
  | .separateTags => Bool
  | .scale | .queries | .seed | .workers => UInt64
  | .start | .stop => Instant

def given (o : Overrides) : (f : Flag) → Option f.Value
  | .config => o.config
  | .useCase => o.useCase
  | .queryType => o.queryType
  | .format => o.backend
  | .separateTags => o.separateTags
  | .scale => o.scale
  | .start => o.start
  | .stop => o.stop
  | .span => o.span
  | .queries => o.queries
  | .seed => o.seed
  | .workers => o.workers
  | .output => o.output

-- The names of files are no settings.
def setting (c : Settings) : (f : Flag) → Option f.Value
  | .config | .output => none
  | .useCase => some c.useCase
  | .queryType => some c.queryType
  | .format => some c.backend
  | .separateTags => some c.separateTags
  | .scale => some c.scale
  | .start => some c.start
  | .stop => some c.stop
  | .span => c.span
  | .queries => some c.queries
  | .seed => c.seed
  | .workers => some c.workers

def IsSetting (f : Flag) : Prop :=
  f ≠ .config ∧ f ≠ .output

theorem setting_eq_none {f : Flag} (unset : ¬ f.IsSetting) (c : Settings) : f.setting c = none := by
  cases f with
  | config => rfl
  | output => rfl
  | _ => exact absurd ⟨nofun, nofun⟩ unset

end Flag

theorem settings_ext {c c' : Settings} (same : ∀ f : Flag, f.setting c = f.setting c')
    (population : c.population = c'.population) : c = c' := by
  cases c
  cases c'
  simp only [Settings.mk.injEq]
  exact ⟨Option.some.inj (same .useCase), Option.some.inj (same .queryType),
    Option.some.inj (same .format), Option.some.inj (same .scale), Option.some.inj (same .start),
    Option.some.inj (same .stop), same .span, Option.some.inj (same .queries), same .seed,
    Option.some.inj (same .workers), Option.some.inj (same .separateTags), population⟩

namespace Overrides

-- What is given in `b` stands, then what is given in `a`; but an end in `b` ends the span of `a`.
def followedBy (a b : Overrides) : Overrides where
  config := b.config.or a.config
  useCase := b.useCase.or a.useCase
  queryType := b.queryType.or a.queryType
  backend := b.backend.or a.backend
  separateTags := b.separateTags.or a.separateTags
  scale := b.scale.or a.scale
  start := b.start.or a.start
  stop := b.stop.or a.stop
  span := b.span.or (if b.stop.isSome then none else a.span)
  queries := b.queries.or a.queries
  seed := b.seed.or a.seed
  workers := b.workers.or a.workers
  output := b.output.or a.output

def settled (o : Overrides) (c : Settings) : Settings :=
  { useCase := o.useCase.getD c.useCase
    queryType := o.queryType.getD c.queryType
    backend := o.backend.getD c.backend
    scale := o.scale.getD c.scale
    start := o.start.getD c.start
    stop := o.stop.getD c.stop
    span := o.span.or (if o.stop.isSome then none else c.span)
    queries := o.queries.getD c.queries
    seed := o.seed.or c.seed
    workers := o.workers.getD c.workers
    separateTags := o.separateTags.getD c.separateTags
    population := c.population }

theorem assign_eq {α : Type} (value? : Option α) (put : α → Settings → Settings) (get : Settings → α)
    (kept : ∀ c, put (get c) c = c) (c : Settings) :
    assign value? put c = put (value?.getD (get c)) c := by
  cases value? with
  | none => exact (kept c).symm
  | some value => rfl

-- The span comes after the end, so the end does not drop one that is given with it.
theorem apply_eq_settled (o : Overrides) (c : Settings) : o.apply c = o.settled c := by
  cases c
  unfold apply
  rw [assign_eq o.useCase _ Settings.useCase, assign_eq o.queryType _ Settings.queryType,
    assign_eq o.backend _ Settings.backend, assign_eq o.separateTags _ Settings.separateTags,
    assign_eq o.scale _ Settings.scale, assign_eq o.start _ Settings.start,
    assign_eq o.queries _ Settings.queries, assign_eq o.workers _ Settings.workers]
  · dsimp only [assign, settled]
    cases o.span <;> cases o.stop <;> cases o.seed <;> rfl
  -- A setting that is put back changes nothing.
  all_goals exact fun _ => rfl

theorem given_followedBy {f : Flag} (plain : f ≠ .span) (a b : Overrides) :
    f.given (a.followedBy b) = (f.given b).or (f.given a) := by
  cases f with
  | span => exact absurd rfl plain
  | _ => rfl

theorem setting_apply {f : Flag} (setting : f.IsSetting) (plain : f ≠ .span) (o : Overrides)
    (c : Settings) : f.setting (o.apply c) = (f.given o).or (f.setting c) := by
  rw [apply_eq_settled]
  cases f with
  | config => exact absurd rfl setting.1
  | output => exact absurd rfl setting.2
  | span => exact absurd rfl plain
  | seed => rfl
  | _ => exact Option.or_some.symm

theorem span_apply (o : Overrides) (c : Settings) :
    (o.apply c).span = o.span.or (if o.stop.isSome then none else c.span) := by
  rw [apply_eq_settled, settled]

theorem population_apply (o : Overrides) (c : Settings) :
    (o.apply c).population = c.population := by
  rw [apply_eq_settled, settled]

-- Flags that name files change no setting, and the span has a law of its own.
theorem apply_eq {o : Overrides} {c c' : Settings} (population : c'.population = c.population)
    (span : c'.span = o.span.or (if o.stop.isSome then none else c.span))
    (others : ∀ f : Flag, f.IsSetting → f ≠ .span → f.setting c' = (f.given o).or (f.setting c)) :
    c' = o.apply c := by
  refine settings_ext (fun f => ?_) (population.trans (population_apply o c).symm)
  by_cases plain : f = .span
  · subst plain
    exact span.trans (span_apply o c).symm
  · by_cases setting : f.IsSetting
    · rw [others f setting plain, setting_apply setting plain]
    · rw [f.setting_eq_none setting, f.setting_eq_none setting]

theorem apply_followedBy (a b : Overrides) (c : Settings) :
    b.apply (a.apply c) = (a.followedBy b).apply c := by
  refine apply_eq (by rw [population_apply, population_apply]) ?_ ?_
  · simp only [span_apply, followedBy, Option.isSome_or, Bool.or_eq_true]
    by_cases ended : b.stop.isSome = true
    · simp [ended]
    · simp [ended, Option.or_assoc]
  · intro f setting plain
    rw [setting_apply setting plain, setting_apply setting plain, given_followedBy plain,
      Option.or_assoc]

theorem apply_apply (o : Overrides) (c : Settings) : o.apply (o.apply c) = o.apply c := by
  refine apply_eq (by rw [population_apply, population_apply]) ?_ ?_
  · simp only [span_apply]
    by_cases ended : o.stop.isSome = true
    · simp [ended]
    · simp [ended, ← Option.or_assoc]
  · intro f setting plain
    rw [setting_apply setting plain, setting_apply setting plain, ← Option.or_assoc, Option.or_self]

-- The four places where the end of a range can be set, the one that counts first.
def ending (o : Overrides) (c : Settings) : Settings.Ending :=
  match o.span, o.stop, c.span with
  | some text, _, _ => .span text
  | none, some stop, _ => .instant stop
  | none, none, some text => .span text
  | none, none, none => .instant c.stop

theorem ending_apply (o : Overrides) (c : Settings) : (o.apply c).ending = o.ending c := by
  rw [apply_eq_settled]
  unfold Settings.ending ending settled
  cases o.span <;> cases o.stop <;> cases c.span <;> rfl

theorem range_apply_ok_iff (o : Overrides) (c : Settings) (r : TimeRange) :
    (o.apply c).range = .ok r ↔
      r.start = o.start.getD c.start ∧ (o.ending c).Reaches (o.start.getD c.start) r.stop ∧
        r.stop.before r.start = false := by
  have start : (o.apply c).start = o.start.getD c.start := by rw [apply_eq_settled, settled]
  rw [Settings.range_ok_iff, ending_apply, start]

/-- A given flag stands before its setting; a given end stands before a span that is not given with
it. So the range ends where the first of four places says, and applying flags again changes nothing,
or the same as flags that were put together first. -/
theorem apply_by_precedence (o : Overrides) (c : Settings) :
    (∀ f : Flag, f.IsSetting → f ≠ .span →
      f.setting (o.apply c) = (f.given o).or (f.setting c)) ∧
    (o.apply c).span = o.span.or (if o.stop.isSome then none else c.span) ∧
    (o.apply c).population = c.population ∧
    (∀ r, (o.apply c).range = .ok r ↔
      r.start = o.start.getD c.start ∧ (o.ending c).Reaches (o.start.getD c.start) r.stop ∧
        r.stop.before r.start = false) ∧
    o.apply (o.apply c) = o.apply c ∧
    ∀ later : Overrides,
      later.apply (o.apply c) = (o.followedBy later).apply c ∧
        (o.followedBy later).span =
          later.span.or (if later.stop.isSome then none else o.span) ∧
        ∀ f : Flag, f ≠ .span → f.given (o.followedBy later) = (f.given later).or (f.given o) := by
  refine ⟨fun f setting plain => setting_apply setting plain o c, span_apply o c,
    population_apply o c, o.range_apply_ok_iff c, o.apply_apply c, fun later => ?_⟩
  refine ⟨o.apply_followedBy later c, rfl, ?_⟩
  exact fun f plain => given_followedBy plain o later

end Overrides

end CommandLine

end QueryWorkload
