import QueryWorkload.Proofs.Builders
import QueryWorkload.Proofs.Selection
import QueryWorkload.Proofs.TimeLiteral

set_option autoImplicit false

namespace QueryWorkload

-- Two requests that fail alike, or end in a sample and something made of it; the sampler is left
-- the same.
inductive Conveys {σ α : Type} (asks : Sample → α → Prop) :
    Except Failure Sample × Sampler σ → Except Failure α × Sampler σ → Prop where
  | failed (why : Failure) (t : Sampler σ) : Conveys asks (.error why, t) (.error why, t)
  | asked {x : Sample} {a : α} (t : Sampler σ) (same : asks x a) : Conveys asks (.ok x, t) (.ok a, t)

namespace Conveys

variable {σ α β : Type} {asks : Sample → α → Prop}

theorem sampler_eq {question : Except Failure Sample × Sampler σ}
    {request : Except Failure α × Sampler σ} (conveyed : Conveys asks question request) :
    request.2 = question.2 := by
  cases conveyed <;> rfl

theorem of_ok {question : Except Failure Sample × Sampler σ} {request : Except Failure α × Sampler σ}
    (conveyed : Conveys asks question request) {a : α} (done : request.1 = .ok a) :
    ∃ x, question.1 = .ok x ∧ asks x a := by
  cases conveyed with
  | failed why t => cases done
  | asked t same =>
    cases done
    exact ⟨_, rfl, same⟩

theorem ok_of_question {question : Except Failure Sample × Sampler σ}
    {request : Except Failure α × Sampler σ} (conveyed : Conveys asks question request) {x : Sample}
    (asked : question.1 = .ok x) : ∃ a, request.1 = .ok a := by
  cases conveyed with
  | failed why t => cases asked
  | asked t same => exact ⟨_, rfl⟩

theorem of_error {question : Except Failure Sample × Sampler σ}
    {request : Except Failure α × Sampler σ} (conveyed : Conveys asks question request)
    {why : Failure} (failed : question.1 = .error why) : request.1 = .error why := by
  cases conveyed with
  | failed why t =>
    cases failed
    rfl
  | asked t same => cases failed

theorem map {asks' : Sample → β → Prop} {f : α → β} {question : Except Failure Sample × Sampler σ}
    {request : Except Failure α × Sampler σ} (conveyed : Conveys asks question request)
    (later : ∀ x a, asks x a → asks' x (f a)) :
    Conveys asks' question (request.1.map f, request.2) := by
  cases conveyed with
  | failed why t => exact .failed why t
  | asked t same => exact .asked t (later _ _ same)

theorem of_bind {question : Sampling σ Sample} {make : Sample → Sampling σ α} {t : Sampler σ}
    (made : ∀ x, (question t).1 = .ok x → ∃ a, make x = pure a ∧ asks x a) :
    Conveys asks (question t) ((question >>= make) t) := by
  rcases done : question t with ⟨why | x, u⟩
  · rw [Sampling.bind_of_error done]
    exact .failed why u
  · obtain ⟨a, finished, same⟩ := made x (by rw [done])
    rw [Sampling.bind_of_ok done, finished]
    exact .asked u same

theorem of_resolved [WordSource σ] {s : Scenario} {make : List String → Sampling σ α}
    {t : Sampler σ}
    (made : ∀ metrics, s.resolve = .ok metrics → Conveys asks (s.draw t) (make metrics t)) :
    Conveys asks (s.ask t) ((Sampling.ofExcept s.resolve >>= make) t) := by
  cases resolved : s.resolve with
  | error why =>
    -- Both fail before anything is drawn.
    rw [Scenario.ask_of_unresolved resolved]
    exact .failed why t
  | ok metrics =>
    rw [Scenario.ask_of_resolved resolved]
    exact made metrics resolved

end Conveys

namespace Instant

def floor (t : Instant) : Instant :=
  ⟨t.seconds, t.nanos / second * second⟩

theorem dateTime_floor (separator : String) (t : Instant) :
    t.floor.dateTime separator = t.dateTime separator := by
  have kept : t.nanos / second * second / second = t.nanos / second :=
    Nat.mul_div_cancel _ (by decide)
  simp only [dateTime, date, timeText, clock, floor, kept]

end Instant

namespace Sql

-- The literal of an instant is read as the second that it lies in, and as no other.
structure Literal (text : String) (t : Instant) : Prop where
  written : text = t.dateTime " "
  denotes : t.floor.IsWhole → t.InFourDigits → ∀ u, Instant.Denotes text u ↔ u = t.floor

theorem literal_dateTime (t : Instant) : Literal (t.dateTime " ") t where
  written := rfl
  denotes whole years u := by
    have denotes := Instant.denotes_dateTime (t := t.floor) whole years
    rw [Instant.dateTime_floor] at denotes
    exact denotes.iff_eq u

-- A column lies between two literals, of which the second one is excluded.
def Bounds (text column : String) (w : TimeRange) : Prop :=
  ∃ lower upper : String, Literal lower w.start ∧ Literal upper w.stop ∧
    Contains text ("(" ++ column ++ " >= '" ++ lower ++ "') AND (" ++ column ++ " < '" ++ upper ++
      "')")

def TagLayout.test (column : String) (names : List String) : TagLayout → TagTest
  | .separate => .ofTagSet column names
  | .inlined => .ofRow (names.map fun n => (column, n))

theorem read_entityFilter {layout : TagLayout} (kind : EntityKind) {names : List String}
    {filter : String} (named : names ≠ [])
    (made : layout.entityFilter kind.tag names = .ok filter) :
    TagTest.read filter = some (layout.test kind.tag names) := by
  have letters : ∀ c ∈ kind.tag.toList, c.isAlpha = true := by
    cases kind <;> simp [EntityKind.tag]
  obtain ⟨name, names, rfl⟩ := List.exists_cons_of_ne_nil named
  cases layout with
  | separate => exact read_separate letters made
  | inlined => exact read_inlined letters made

-- The statement has a filter on the names and the bounds of the window.
structure Asks (layout : TagLayout) (s : Scenario) (x : Sample) (text : String) : Prop where
  stated : ∃ metrics, s.resolve = .ok metrics ∧ statement layout s metrics x = .ok text
  names : ∀ kind count, s.entities? = some (kind, count) →
    ∃ filter, layout.entityFilter kind.tag x.names = .ok filter ∧ Contains text filter ∧
      TagTest.read filter = some (layout.test kind.tag x.names)
  window : ∀ w, x.window? = some w → Bounds text (timeOf layout s) w

theorem asks_of_answers (layout : TagLayout) {s : Scenario} {x : Sample} {metrics : List String}
    (answered : x.Answers s) (resolved : s.resolve = .ok metrics) :
    ∃ text, statement layout s metrics x = .ok text ∧ Asks layout s x text := by
  obtain ⟨text, stated, named, timed⟩ := statement_ok layout answered resolved
  refine ⟨text, stated, ⟨metrics, resolved, stated⟩, fun kind count asked => ?_, fun w windowed =>
    ⟨_, _, literal_dateTime w.start, literal_dateTime w.stop, timed w windowed⟩⟩
  obtain ⟨filter, made, inside⟩ := named kind count asked
  exact ⟨filter, made, inside, read_entityFilter kind (answered.names_ne_nil asked) made⟩

end Sql

namespace Pipeline

-- The stage lets through what has one of the names, in the window, and of primaries only if asked.
structure Filters (s : Scenario) (x : Sample) (stage : Document) : Prop where
  names : ∀ kind count, s.entities? = some (kind, count) →
    stage.at? ["$match", tagPath kind.tag, "$in"] = some (.list (x.names.map .str))
  window : ∀ w, x.window? = some w →
    stage.at? ["$match", "time", "$gte"] = some (.date w.start.toMillis) ∧
      stage.at? ["$match", "time", "$lt"] = some (.date w.stop.toMillis)
  primaries : stage.at? ["$match", tagPath stateTag] =
    if primariesOnly s then some (.str primaryState) else none

theorem filters_of_matchStage {s : Scenario} {x : Sample} {stage : Document}
    (matched : matchStage (entity? s x) x.window? (primariesOnly s) = .ok stage) :
    Filters s x stage := by
  obtain ⟨kind, names?, named⟩ : ∃ (kind : EntityKind) (names? : Option (List String)),
      entity? s x = names?.map fun names => (kind.tag, names) := by
    unfold entity?
    cases s.entities? with
    | none => exact ⟨.host, none, rfl⟩
    | some e => exact ⟨e.1, some x.names, rfl⟩
  have distinct := @nodup_conditions x.window? (primariesOnly s) kind names?
  have same := eq_of_matchStage matched
  rw [named, ofFields_of_nodup distinct] at same
  subst same
  refine ⟨fun kind' count asked => ?_, fun w windowed => ?_, ?_⟩
  · have given : entity? s x = some (kind'.tag, x.names) := by rw [entity?, asked]; rfl
    rw [at?_match, ← named, given, lookup_names]
    rfl
  · rw [at?_match, at?_match, windowed, lookup_time]
    exact ⟨rfl, rfl⟩
  · rw [at?_match, lookup_state]
    cases primariesOnly s <;> rfl

-- The first stage filters the readings, and the others do what the scenario is about.
def Asks (s : Scenario) (x : Sample) (stages : List Document) : Prop :=
  ∃ metrics first, s.resolve = .ok metrics ∧ stages = first :: later s metrics ∧
    matchStage (entity? s x) x.window? (primariesOnly s) = .ok first ∧ Filters s x first

end Pipeline

namespace Selector

-- The expression selects the series of the names, up to the second in which the window ends.
structure Asks (s : Scenario) (x : Sample) (expr : String) (stop : Int) : Prop where
  names : ∀ kind count, s.entities? = some (kind, count) →
    tagMatcher kind.tag x.names = .ok (matcher kind.tag x.names) ∧
      Contains expr (matcher kind.tag x.names)
  stop : ∀ w, x.window? = some w → stop = w.stop.seconds

end Selector

namespace Backend

def title : Backend → String
  | .clickHouse => Sql.backend
  | .mongo => Pipeline.backend
  | .victoriaMetrics => Selector.backend

def Puts (layout : Sql.TagLayout) (s : Scenario) (x : Sample) : Backend → Payload → Prop
  | .clickHouse, .sql table text => table = Sql.table ∧ Sql.Asks layout s x text
  | .mongo, .pipeline collection stages =>
    collection = Pipeline.collection ∧ Pipeline.Asks s x stages
  | .victoriaMetrics, .selector expr _ stop step =>
    step = Selector.step s ∧ Selector.Asks s x expr stop
  | _, _ => False

end Backend

section Compiling

variable {σ : Type} [WordSource σ]

theorem Scenario.answer_conveys {s : Scenario} {backend : String}
    {make : Sample → Except Failure Payload} {puts : Sample → Payload → Prop}
    (made : ∀ x, x.Answers s → ∃ payload, make x = .ok payload ∧ puts x payload) (t : Sampler σ) :
    Conveys (fun x body => ∃ payload, body = s.body backend x payload ∧ puts x payload) (s.draw t)
      (s.answer backend make t) := by
  apply Conveys.of_bind
  intro x drawn
  obtain ⟨payload, made, put⟩ := made x (draw_ok drawn).1
  exact ⟨s.body backend x payload, by rw [made]; rfl, payload, rfl, put⟩

theorem Sql.compile_conveys (layout : TagLayout) (s : Scenario) (t : Sampler σ) :
    Conveys (fun x body => ∃ payload, body = s.body backend x payload ∧
      Backend.clickHouse.Puts layout s x payload) (s.ask t) (compile layout s t) := by
  apply Conveys.of_resolved
  intro metrics resolved
  refine Scenario.answer_conveys (fun x answered => ?_) t
  obtain ⟨text, stated, asks⟩ := asks_of_answers layout answered resolved
  exact ⟨.sql table text, by rw [payload, stated]; rfl, rfl, asks⟩

theorem Pipeline.compile_conveys (layout : Sql.TagLayout) (s : Scenario) (t : Sampler σ) :
    Conveys (fun x body => ∃ payload, body = s.body backend x payload ∧
      Backend.mongo.Puts layout s x payload) (s.ask t) (compile s t) := by
  apply Conveys.of_resolved
  intro metrics resolved
  refine Scenario.answer_conveys (fun x answered => ?_) t
  obtain ⟨first, staged, matched⟩ := stages_ok answered metrics
  exact ⟨.pipeline collection (first :: later s metrics), by rw [payload, staged]; rfl, rfl, metrics,
    first, resolved, rfl, matched, filters_of_matchStage matched⟩

theorem Selector.compile_conveys (layout : Sql.TagLayout) {s : Scenario} {metrics : List String}
    (resolved : s.resolve = .ok metrics) (supported : supports s = true) (t : Sampler σ) :
    Conveys (fun x body => ∃ payload, body = s.body backend x payload ∧
      Backend.victoriaMetrics.Puts layout s x payload) (s.ask t) (compile s t) := by
  -- Nothing is looked up before the draws here, so the question has to be one that resolves.
  rw [Scenario.ask_of_resolved resolved]
  refine Scenario.answer_conveys (fun x answered => ?_) t
  obtain ⟨tags, matched, named⟩ := nameMatcher_ok answered
  obtain ⟨expr, expressed, inside⟩ := expression_ok resolved supported tags
  let span := (x.window?.map fun w => (firstEvaluation w (step s), w.stop.seconds)).getD (0, 0)
  refine ⟨.selector expr span.1 span.2 (step s), ?_, rfl, fun kind count asked => ?_, fun w windowed => ?_⟩
  · rw [payload, matched, Outcome.mapError_ok, Outcome.ok_bind, expressed]
    rfl
  · obtain ⟨made, same⟩ := named kind count asked
    exact ⟨made, same ▸ inside⟩
  · simp only [span, windowed, Option.map_some, Option.getD_some]

theorem Selector.compile_eq_ok {s : Scenario} {t : Sampler σ} {body : Body}
    (compiled : (compile s t).1 = .ok body) :
    ∃ x tags expr, (s.draw t).1 = .ok x ∧ expression s tags = .ok expr ∧
      ∀ w, x.window? = some w →
        body.payload = .selector expr (firstEvaluation w (step s)) w.stop.seconds (step s) := by
  obtain ⟨x, drawn, compiled⟩ := Sampling.ok_of_bind_ok compiled
  obtain ⟨payload, made, compiled⟩ := Sampling.ok_of_bind_ok compiled
  obtain ⟨tags, _, made⟩ := Outcome.bind_eq_ok.1 made
  obtain ⟨expr, expressed, made⟩ := Outcome.bind_eq_ok.1 made
  cases compiled
  cases made
  refine ⟨x, tags, expr, drawn, expressed, fun w windowed => ?_⟩
  simp only [Scenario.body, windowed, Option.map_some]

theorem Selector.resolve_of_compile {s : Scenario} {t : Sampler σ} {body : Body}
    (compiled : (compile s t).1 = .ok body) : ∃ metrics, s.resolve = .ok metrics := by
  obtain ⟨_, _, _, _, expressed, _⟩ := compile_eq_ok compiled
  exact resolve_of_expression expressed

-- What a backend makes of a scenario, before anything is written.
def Backend.compile (b : Backend) (layout : Sql.TagLayout) (s : Scenario) : Sampling σ Body :=
  match b with
  | .clickHouse => Sql.compile layout s
  | .mongo => Pipeline.compile s
  | .victoriaMetrics =>
    if Selector.supports s then Selector.compile s
    else .ofExcept (.error (Refusal.unsupported s.name Selector.backend))

theorem Backend.refill_eq (b : Backend) (layout : Sql.TagLayout) (s : Scenario) :
    (s.refill (b.compiler layout) : Filling σ Unit) =
      (Filling.sample (b.compile layout s) >>= Filling.put) := by
  cases b with
  | clickHouse => exact Sql.fill_eq layout s
  | mongo => exact Pipeline.fill_eq s
  | victoriaMetrics =>
    simp only [Scenario.refill, compiler, Compiler.selector, Selector.fill?_eq, compile]
    by_cases supported : Selector.supports s = true
    · simp only [supported, if_true]
    · simp only [supported]
      rfl

end Compiling

structure Query.FilledFor (q : Query) (b : Backend) (layout : Sql.TagLayout) (id : Nat)
    (s : Scenario) (x : Sample) : Prop where
  id : q.id = id
  label : q.label = b.title ++ " " ++ s.label
  plain : x.window? = none → q.description = q.label
  windowed : ∀ w, x.window? = some w → q.description = q.label ++ ": " ++ w.start.toSecondText
  payload : b.Puts layout s x q.payload

namespace Query

theorem FilledFor.isFilled {q : Query} {b : Backend} {layout : Sql.TagLayout} {id : Nat}
    {s : Scenario} {x : Sample} (filled : q.FilledFor b layout id s x) : q.isFilled = true := by
  have put := filled.payload
  unfold Query.isFilled
  cases payload : q.payload with
  | empty => cases b <;> simp [payload, Backend.Puts] at put
  | _ => rfl

theorem fill_filledFor {b : Backend} {layout : Sql.TagLayout} {s : Scenario} {x : Sample}
    {payload : Payload} (put : b.Puts layout s x payload) (q : Query) :
    (q.fill (s.body b.title x payload)).FilledFor b layout q.id s x where
  id := rfl
  label := rfl
  plain timeless := by simp only [fill, Scenario.body, timeless]
  windowed w timed := by simp only [fill, Scenario.body, timed]
  payload := put

end Query

namespace Scenario

variable {σ : Type} [WordSource σ]

def Within (s : Scenario) (b : Backend) : Prop :=
  b = .victoriaMetrics → Selector.supports s = true

def IsLastPoint : Scenario → Prop
  | .lastPoint _ => True
  | .lastPointPrimaries => True
  | _ => False

theorem supports_iff (s : Scenario) : Selector.supports s = true ↔ ¬ s.IsLastPoint := by
  cases s <;> simp [Selector.supports, IsLastPoint]

omit [WordSource σ] in
theorem fill_of_refill {c : Compiler σ} {s : Scenario} {compile : Sampling σ Body}
    (built : s.refill c = (Filling.sample compile >>= Filling.put)) (q : Query) (t : Sampler σ) :
    s.fill c q t = ((compile t).1.map q.fill, (compile t).2) := by
  simp only [fill, built]
  rcases done : compile t with ⟨why | body, u⟩
  · rw [Filling.put_sample_of_error done]
    rfl
  · rw [Filling.put_sample_of_ok done]
    rfl

theorem fill_eq (b : Backend) (layout : Sql.TagLayout) (s : Scenario) (q : Query) (t : Sampler σ) :
    s.fill (b.compiler layout) q t =
      ((b.compile layout s t).1.map q.fill, (b.compile layout s t).2) :=
  fill_of_refill (b.refill_eq layout s) q t

theorem compile_of_supports {s : Scenario} (layout : Sql.TagLayout)
    (supported : Selector.supports s = true) :
    (Backend.victoriaMetrics.compile layout s : Sampling σ Body) = Selector.compile s :=
  if_pos supported

theorem compile_of_not_supports {s : Scenario} (layout : Sql.TagLayout)
    (unsupported : ¬ Selector.supports s = true) :
    (Backend.victoriaMetrics.compile layout s : Sampling σ Body) =
      .ofExcept (.error (Refusal.unsupported s.name Selector.backend)) :=
  if_neg unsupported

omit [WordSource σ] in
theorem refill_of_none {c : Compiler σ} {s : Scenario} (unexpressed : c.fill? s = none)
    (d : FillState σ) : s.refill c d = (.error (Refusal.unsupported s.name c.name), d) := by
  simp only [refill, unexpressed]
  rfl

omit [WordSource σ] in
theorem fill_of_none {c : Compiler σ} {s : Scenario} (unexpressed : c.fill? s = none)
    (q : Query) (t : Sampler σ) :
    s.fill c q t = (.error (Refusal.unsupported s.name c.name), t) := by
  simp only [fill, refill_of_none unexpressed]
  rfl

theorem compile_conveys (b : Backend) (layout : Sql.TagLayout) {s : Scenario} (within : s.Within b)
    (resolvable : b = .victoriaMetrics → ∃ metrics, s.resolve = .ok metrics) (t : Sampler σ) :
    Conveys (fun x body => ∃ payload, body = s.body b.title x payload ∧ b.Puts layout s x payload)
      (s.ask t) (b.compile layout s t) := by
  cases b with
  | clickHouse => exact Sql.compile_conveys layout s t
  | mongo => exact Pipeline.compile_conveys layout s t
  | victoriaMetrics =>
    obtain ⟨metrics, resolved⟩ := resolvable rfl
    rw [compile_of_supports layout (within rfl)]
    exact Selector.compile_conveys layout resolved (within rfl) t

theorem fill_conveys (b : Backend) (layout : Sql.TagLayout) {s : Scenario} (within : s.Within b)
    (resolvable : b = .victoriaMetrics → ∃ metrics, s.resolve = .ok metrics) (q : Query)
    (t : Sampler σ) :
    Conveys (fun x q' => q'.FilledFor b layout q.id s x) (s.ask t)
      (s.fill (b.compiler layout) q t) := by
  rw [fill_eq]
  refine (compile_conveys b layout within resolvable t).map ?_
  rintro x body ⟨payload, rfl, put⟩
  exact Query.fill_filledFor put q

theorem fill_ok {b : Backend} {layout : Sql.TagLayout} {s : Scenario} {q q' : Query}
    {t : Sampler σ} (filled : (s.fill (b.compiler layout) q t).1 = .ok q') :
    s.Within b ∧ ∃ x, (s.ask t).1 = .ok x ∧ q'.FilledFor b layout q.id s x := by
  have possible : s.Within b ∧ (b = .victoriaMetrics → ∃ metrics, s.resolve = .ok metrics) := by
    cases b with
    | clickHouse => exact ⟨nofun, nofun⟩
    | mongo => exact ⟨nofun, nofun⟩
    | victoriaMetrics =>
      by_cases supported : Selector.supports s = true
      · rw [fill_eq, compile_of_supports layout supported] at filled
        obtain ⟨body, compiled, _⟩ := Outcome.map_eq_ok.1 filled
        exact ⟨fun _ => supported, fun _ => Selector.resolve_of_compile compiled⟩
      · rw [fill_eq, compile_of_not_supports layout supported] at filled
        cases filled
  exact ⟨possible.1, (fill_conveys b layout possible.1 possible.2 q t).of_ok filled⟩

theorem fill_ok_iff (b : Backend) (layout : Sql.TagLayout) {s : Scenario} (within : s.Within b)
    (q : Query) (t : Sampler σ) :
    (∃ q', (s.fill (b.compiler layout) q t).1 = .ok q') ↔ ∃ x, (s.ask t).1 = .ok x := by
  constructor
  · rintro ⟨q', filled⟩
    obtain ⟨_, x, asked, _⟩ := fill_ok filled
    exact ⟨x, asked⟩
  · rintro ⟨x, asked⟩
    have resolvable := (ask_ok asked).2.2
    exact (fill_conveys b layout within (fun _ => resolvable) q t).ok_of_question asked

end Scenario

end QueryWorkload
