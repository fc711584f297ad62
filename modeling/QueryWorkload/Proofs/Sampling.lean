import QueryWorkload.Proofs.Names
import QueryWorkload.Proofs.Window
import QueryWorkload.Sampler
import QueryWorkload.Scenario

set_option autoImplicit false

namespace QueryWorkload

namespace Sampling

variable {σ α β γ : Type}

def ofExcept (r : Except Failure α) : Sampling σ α :=
  fun s => (r, s)

theorem bind_pure_eq (m : Sampling σ α) : (m >>= pure) = m := by
  funext t
  rcases h : m t with ⟨r | a, u⟩
  · simp only [bind, h]
  · simp only [bind, h]
    rfl

theorem bind_bind (m : Sampling σ α) (f : α → Sampling σ β) (g : β → Sampling σ γ) :
    (m >>= f >>= g) = m >>= fun a => f a >>= g := by
  funext t
  rcases h : m t with ⟨r | a, u⟩ <;> simp only [bind, h]

instance : LawfulMonad (Sampling σ) :=
  .mk' _ bind_pure_eq (fun _ _ => rfl) bind_bind

@[simp] theorem pure_apply (a : α) (t : Sampler σ) : (pure a : Sampling σ α) t = (.ok a, t) := rfl

theorem bind_of_ok {m : Sampling σ α} {t u : Sampler σ} {a : α} (done : m t = (.ok a, u))
    (f : α → Sampling σ β) : (m >>= f) t = f a u := by
  simp only [bind, done]

theorem bind_of_error {m : Sampling σ α} {t u : Sampler σ} {why : Failure}
    (failed : m t = (.error why, u)) (f : α → Sampling σ β) : (m >>= f) t = (.error why, u) := by
  simp only [bind, failed]

@[simp] theorem ofExcept_ok_bind (a : α) (f : α → Sampling σ β) :
    (ofExcept (.ok a) >>= f) = f a := rfl

theorem ok_of_bind_ok {m : Sampling σ α} {f : α → Sampling σ β} {t : Sampler σ} {b : β}
    (done : ((m >>= f) t).1 = .ok b) :
    ∃ a, (m t).1 = .ok a ∧ (f a (m t).2).1 = .ok b := by
  rcases h : m t with ⟨r | a, u⟩
  · rw [bind_of_error h] at done
    cases done
  · rw [bind_of_ok h] at done
    exact ⟨a, rfl, done⟩

theorem bind_pure_apply (m : Sampling σ α) (f : α → β) (t : Sampler σ) :
    (m >>= fun a => pure (f a)) t = ((m t).1.map f, (m t).2) := by
  rcases h : m t with ⟨r | a, u⟩
  · rw [bind_of_error h]
    rfl
  · rw [bind_of_ok h]
    rfl

def Keeps (m : Sampling σ α) : Prop :=
  ∀ t, (m t).2.range = t.range ∧ (m t).2.population = t.population

theorem keeps_pure (a : α) : Keeps (pure a : Sampling σ α) :=
  fun _ => ⟨rfl, rfl⟩

theorem keeps_ofExcept (r : Except Failure α) : Keeps (ofExcept r : Sampling σ α) :=
  fun _ => ⟨rfl, rfl⟩

theorem Keeps.bind {m : Sampling σ α} {f : α → Sampling σ β} (first : Keeps m)
    (later : ∀ a, Keeps (f a)) : Keeps (m >>= f) := by
  intro t
  rcases h : m t with ⟨r | a, u⟩
  · rw [bind_of_error h]
    simpa only [h] using first t
  · rw [bind_of_ok h]
    -- The second request starts from what the first left, which has the old range and fleet.
    have kept := first t
    rw [h] at kept
    exact ⟨(later a u).1.trans kept.1, (later a u).2.trans kept.2⟩

def FailsOnly (P : Failure → Prop) (m : Sampling σ α) : Prop :=
  ∀ t, Outcome.FailsOnly P (m t).1

theorem failsOnly_pure (P : Failure → Prop) (a : α) : FailsOnly P (pure a : Sampling σ α) :=
  fun _ => Outcome.failsOnly_ok P a

theorem failsOnly_ofExcept {P : Failure → Prop} {r : Except Failure α}
    (fails : Outcome.FailsOnly P r) : FailsOnly P (ofExcept r : Sampling σ α) :=
  fun _ => fails

theorem FailsOnly.bind {P : Failure → Prop} {m : Sampling σ α} {f : α → Sampling σ β}
    (first : FailsOnly P m) (later : ∀ a, FailsOnly P (f a)) : FailsOnly P (m >>= f) := by
  intro t
  rcases h : m t with ⟨why | a, u⟩
  · rw [bind_of_error h]
    exact Outcome.failsOnly_error (first t why (by rw [h]))
  · rw [bind_of_ok h]
    exact later a u

variable [WordSource σ]

theorem keeps_names (kind : EntityKind) (count : Nat) :
    Keeps (names kind count : Sampling σ (List String)) := by
  intro t
  simp only [names]
  split <;> exact ⟨rfl, rfl⟩

theorem window_apply (d : Duration) (t : Sampler σ) :
    window d t = ((t.range.drawWindow d t.source).1, { t with source := (t.range.drawWindow d t.source).2 }) :=
  rfl

theorem names_of_total_ok {kind : EntityKind} {t : Sampler σ} {total : Nat}
    (known : t.population.total kind = .ok total) (count : Nat) :
    names kind count t =
      ((Names.draw kind count total t.source).1,
        { t with source := (Names.draw kind count total t.source).2 }) := by
  simp only [names, known]

end Sampling

structure Sample where
  window? : Option TimeRange
  names : List String

namespace Scenario

def entities? : Scenario → Option (EntityKind × Nat)
  | .allMetrics scope count _ => some (scope.kind, count)
  | .hourlyAverage _ scope count _ => some (scope.kind, count)
  | .lastPoint hosts => some (.host, hosts)
  | .lastPointPrimaries => none
  | .top _ _ _ => some (.cluster, 1)
  | .counterRate hosts _ => some (.host, hosts)

variable {σ : Type} [WordSource σ]

omit [WordSource σ] in
def checkRank : Scenario → Sampling σ Unit
  | .top primaries k _ => do
    let population ← Sampling.population
    Sampling.ofExcept (population.checkTop k primaries)
  | _ => pure ()

def drawWindow (s : Scenario) : Sampling σ (Option TimeRange) :=
  match s.window? with
  | some d => do return some (← Sampling.window d)
  | none => pure none

def drawNames (s : Scenario) : Sampling σ (List String) :=
  match s.entities? with
  | some (kind, count) => Sampling.names kind count
  | none => pure []

def draw (s : Scenario) : Sampling σ Sample := do
  s.checkRank
  let window? ← s.drawWindow
  let names ← s.drawNames
  return { window?, names }

end Scenario

-- What a scenario asks to be drawn: a window if it has a length for one, and that many names.
structure Sample.Answers (x : Sample) (s : Scenario) : Prop where
  window : x.window?.isSome = s.window?.isSome
  names : ∀ kind count, s.entities? = some (kind, count) → x.names.length = count ∧ 1 ≤ count

theorem Sample.Answers.names_ne_nil {x : Sample} {s : Scenario} (answered : x.Answers s)
    {kind : EntityKind} {count : Nat} (asked : s.entities? = some (kind, count)) : x.names ≠ [] := by
  have length := answered.names kind count asked
  intro empty
  rw [empty, List.length_nil] at length
  omega

namespace Scenario

def rank (p : Population) : Scenario → Except Failure Unit
  | .top primaries k _ => p.checkTop k primaries
  | _ => .ok ()

-- What a scenario needs of a population and a range to be drawn, from whatever source.
structure Drawable (s : Scenario) (p : Population) (r : TimeRange) : Prop where
  rank : s.rank p = .ok ()
  window : ∀ d, s.window? = some d → r.checkWindow d = .ok ()
  names : ∀ kind count, s.entities? = some (kind, count) →
    ∃ total, p.total kind = .ok total ∧ Names.check kind count total = .ok ()

variable {σ : Type} [WordSource σ]

omit [WordSource σ] in
theorem checkRank_apply (s : Scenario) (t : Sampler σ) :
    s.checkRank t = (s.rank t.population, t) := by
  cases s <;> rfl

theorem drawWindow_of_none {s : Scenario} (timeless : s.window? = none) :
    (s.drawWindow : Sampling σ _) = pure none := by
  simp only [drawWindow, timeless]

theorem drawWindow_apply {s : Scenario} {d : Duration} (length : s.window? = some d)
    (t : Sampler σ) :
    s.drawWindow t =
      ((t.range.drawWindow d t.source).1.map some,
        { t with source := (t.range.drawWindow d t.source).2 }) := by
  simp only [drawWindow, length, Sampling.bind_pure_apply, Sampling.window_apply]

theorem drawNames_of_none {s : Scenario} (nameless : s.entities? = none) :
    (s.drawNames : Sampling σ _) = pure [] := by
  simp only [drawNames, nameless]

theorem drawNames_of_some {s : Scenario} {kind : EntityKind} {count : Nat}
    (asked : s.entities? = some (kind, count)) :
    (s.drawNames : Sampling σ _) = Sampling.names kind count := by
  simp only [drawNames, asked]

theorem keeps_drawWindow (s : Scenario) : Sampling.Keeps (s.drawWindow : Sampling σ _) := by
  intro t
  cases length : s.window? with
  | none => rw [drawWindow_of_none length, Sampling.pure_apply]; exact ⟨rfl, rfl⟩
  | some d => rw [drawWindow_apply length]; exact ⟨rfl, rfl⟩

theorem keeps_drawNames (s : Scenario) : Sampling.Keeps (s.drawNames : Sampling σ _) := by
  cases asked : s.entities? with
  | none => rw [drawNames_of_none asked]; exact Sampling.keeps_pure _
  | some e => rw [drawNames_of_some asked]; exact Sampling.keeps_names _ _

theorem keeps_draw (s : Scenario) : Sampling.Keeps (s.draw : Sampling σ _) := by
  have rank : Sampling.Keeps (s.checkRank : Sampling σ Unit) := by
    intro t
    rw [checkRank_apply]
    exact ⟨rfl, rfl⟩
  exact rank.bind fun _ => (keeps_drawWindow s).bind fun _ =>
    (keeps_drawNames s).bind fun _ => Sampling.keeps_pure _

theorem drawWindow_ok {s : Scenario} {t : Sampler σ} {window? : Option TimeRange}
    (drawn : (s.drawWindow t).1 = .ok window?) :
    window?.isSome = s.window?.isSome ∧
      ∀ d, s.window? = some d → t.range.checkWindow d = .ok () := by
  cases length : s.window? with
  | none =>
    rw [drawWindow_of_none length] at drawn
    cases drawn
    simp
  | some d =>
    rw [drawWindow_apply length] at drawn
    cases checked : t.range.checkWindow d with
    | error why =>
      rw [TimeRange.drawWindow_of_refused checked] at drawn
      cases drawn
    | ok _ =>
      refine ⟨?_, by rintro _ ⟨⟩; exact checked⟩
      cases found : (t.range.drawWindow d t.source).1 with
      | error why => rw [found] at drawn; cases drawn
      | ok w => rw [found] at drawn; cases drawn; rfl

theorem drawNames_ok {s : Scenario} {t : Sampler σ} {names : List String}
    (drawn : (s.drawNames t).1 = .ok names) (kind : EntityKind) (count : Nat)
    (asked : s.entities? = some (kind, count)) :
    (names.length = count ∧ 1 ≤ count) ∧
      ∃ total, t.population.total kind = .ok total ∧ Names.check kind count total = .ok () := by
  rw [drawNames_of_some asked] at drawn
  cases known : t.population.total kind with
  | error why =>
    simp only [Sampling.names, known] at drawn
    cases drawn
  | ok total =>
    rw [Sampling.names_of_total_ok known] at drawn
    obtain ⟨checked, length⟩ := Names.length_of_draw drawn
    exact ⟨length, total, rfl, checked⟩

theorem draw_ok {s : Scenario} {t : Sampler σ} {x : Sample} (drawn : (s.draw t).1 = .ok x) :
    x.Answers s ∧ s.Drawable t.population t.range := by
  obtain ⟨_, ranked, drawn⟩ := Sampling.ok_of_bind_ok drawn
  rw [checkRank_apply] at ranked drawn
  obtain ⟨window?, windowDrawn, drawn⟩ := Sampling.ok_of_bind_ok drawn
  obtain ⟨names, namesDrawn, drawn⟩ := Sampling.ok_of_bind_ok drawn
  have windows := drawWindow_ok windowDrawn
  have kept := keeps_drawWindow s t
  cases drawn
  refine ⟨⟨windows.1, fun kind count asked => (drawNames_ok namesDrawn kind count asked).1⟩,
    ⟨ranked, windows.2, fun kind count asked => ?_⟩⟩
  simpa only [kept.2] using (drawNames_ok namesDrawn kind count asked).2

theorem draw_window {s : Scenario} {t : Sampler σ} {x : Sample} {d : Duration}
    (length : s.window? = some d) (drawn : (s.draw t).1 = .ok x) :
    ∃ w, x.window? = some w ∧ (t.range.drawWindow d t.source).1 = .ok w := by
  obtain ⟨_, _, drawn⟩ := Sampling.ok_of_bind_ok drawn
  rw [checkRank_apply] at drawn
  obtain ⟨window?, windowDrawn, drawn⟩ := Sampling.ok_of_bind_ok drawn
  obtain ⟨names, _, drawn⟩ := Sampling.ok_of_bind_ok drawn
  rw [drawWindow_apply length] at windowDrawn
  obtain ⟨w, found, rfl⟩ := Outcome.map_eq_ok.1 windowDrawn
  cases drawn
  exact ⟨w, rfl, found⟩

theorem Drawable.drawNames {s : Scenario} {p : Population} {r : TimeRange}
    (possible : s.Drawable p r) {t : Sampler σ} (same : t.population = p) :
    ∃ names u, s.drawNames t = (.ok names, u) := by
  cases asked : s.entities? with
  | none =>
    rw [drawNames_of_none asked]
    exact ⟨_, _, rfl⟩
  | some e =>
    obtain ⟨total, known, checked⟩ := possible.names e.1 e.2 asked
    rw [drawNames_of_some asked, Sampling.names_of_total_ok (same ▸ known),
      Names.draw_of_ok checked]
    exact ⟨_, _, rfl⟩

theorem Drawable.drawWindow {s : Scenario} {t : Sampler σ}
    (possible : s.Drawable t.population t.range) :
    (∃ window? u, s.drawWindow t = (.ok window?, u)) ∨
      (∃ u, s.drawWindow t = (.error (.fault .pastCalendar), u)) ∧ ¬ t.range.Clear := by
  cases length : s.window? with
  | none =>
    rw [drawWindow_of_none length]
    exact .inl ⟨_, _, rfl⟩
  | some d =>
    have checked := possible.window d length
    rw [drawWindow_apply length]
    -- A window that passes its check fails only past the calendar, which a clear range rules out.
    by_cases clear : t.range.Clear
    · rw [clear.drawWindow_ok checked]
      exact .inl ⟨_, _, rfl⟩
    · rw [TimeRange.drawWindow_of_checked checked]
      split
      · exact .inl ⟨_, _, rfl⟩
      · exact .inr ⟨⟨_, rfl⟩, clear⟩

-- What can be drawn is drawn from every source, unless a window lies past the calendar.
theorem Drawable.draw {s : Scenario} {t : Sampler σ} (possible : s.Drawable t.population t.range) :
    (∃ x u, s.draw t = (.ok x, u)) ∨
      (s.draw t).1 = .error (.fault .pastCalendar) ∧ ¬ t.range.Clear := by
  have ranked : s.checkRank t = (.ok (), t) := by rw [checkRank_apply, possible.rank]
  unfold Scenario.draw
  rw [Sampling.bind_of_ok ranked]
  rcases possible.drawWindow with ⟨window?, u, windowDrawn⟩ | ⟨⟨u, late⟩, unclear⟩
  · have kept := keeps_drawWindow s t
    rw [windowDrawn] at kept
    obtain ⟨names, v, namesDrawn⟩ := possible.drawNames (t := u) kept.2
    rw [Sampling.bind_of_ok windowDrawn, Sampling.bind_of_ok namesDrawn]
    exact .inl ⟨_, _, rfl⟩
  · rw [Sampling.bind_of_error late]
    exact .inr ⟨rfl, unclear⟩

end Scenario

end QueryWorkload
