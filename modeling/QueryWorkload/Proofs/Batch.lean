import QueryWorkload.Proofs.Filling
import QueryWorkload.Proofs.Plan
import QueryWorkload.Workload

set_option autoImplicit false

namespace QueryWorkload

def Query.shift (first : Nat) (q : Query) : Query :=
  { q with id := first + q.id }

theorem Scenario.fill_shift {σ : Type} [WordSource σ] (s : Scenario) (b : Backend)
    (layout : Sql.TagLayout) (first : Nat) (q : Query) (t : Sampler σ) :
    s.fill (b.compiler layout) (q.shift first) t =
      ((s.fill (b.compiler layout) q t).1.map (Query.shift first),
        (s.fill (b.compiler layout) q t).2) := by
  rw [fill_eq, fill_eq]
  cases (b.compile layout s t).1 <;> rfl

theorem Scenario.keeps_fill {σ : Type} [WordSource σ] {b : Backend} (layout : Sql.TagLayout)
    {s : Scenario} (within : s.Within b) {metrics : List String} (resolved : s.resolve = .ok metrics)
    (q : Query) : Sampling.Keeps (s.fill (b.compiler layout : Compiler σ) q) := by
  intro t
  rw [(fill_conveys b layout within (fun _ => ⟨metrics, resolved⟩) q t).sampler_eq]
  exact keeps_ask s t

theorem Scenario.fill_of_drawable {σ : Type} [WordSource σ] {b : Backend} (layout : Sql.TagLayout)
    {s : Scenario} (within : s.Within b) {metrics : List String} (resolved : s.resolve = .ok metrics)
    {t : Sampler σ} (drawable : s.Drawable t.population t.range) (q : Query) :
    (∃ q', (s.fill (b.compiler layout) q t).1 = .ok q') ∨
      (s.fill (b.compiler layout) q t).1 = .error (.fault .pastCalendar) ∧ ¬ t.range.Clear := by
  have conveyed := fill_conveys b layout within (fun _ => ⟨metrics, resolved⟩) q t
  rw [ask_of_resolved resolved] at conveyed
  rcases drawable.draw with ⟨x, u, drawn⟩ | ⟨late, unclear⟩
  · rw [drawn] at conveyed
    exact .inl (conveyed.ok_of_question rfl)
  · exact .inr ⟨conveyed.of_error late, unclear⟩

namespace Workload

variable {σ : Type} {s : Scenario}

theorem fillAll_cons_ok {c : Compiler σ} {id : Nat} {t u : Sampler σ} {q : Query}
    (filled : s.fill c (Query.new id) t = (.ok q, u)) (rest : List Nat) :
    fillAll s c (id :: rest) t = ((fillAll s c rest u).1.map (q :: ·), (fillAll s c rest u).2) := by
  rw [fillAll, Sampling.bind_of_ok filled]
  exact Sampling.bind_pure_apply (fillAll s c rest) (q :: ·) u

theorem fillAll_cons_error {c : Compiler σ} {id : Nat} {t u : Sampler σ} {why : Failure}
    (failed : s.fill c (Query.new id) t = (.error why, u)) (rest : List Nat) :
    fillAll s c (id :: rest) t = (.error why, u) := by
  rw [fillAll, Sampling.bind_of_error failed]

theorem fillAll_append {c : Compiler σ} {ids : List Nat} {t u : Sampler σ} {qs : List Query}
    (filled : fillAll s c ids t = (.ok qs, u)) (later : List Nat) :
    fillAll s c (ids ++ later) t =
      ((fillAll s c later u).1.map (qs ++ ·), (fillAll s c later u).2) := by
  induction ids generalizing t qs with
  | nil =>
    cases filled
    rcases done : fillAll s c later u with ⟨why | rs, v⟩
    · rw [List.nil_append, done]
      rfl
    · rw [List.nil_append, done]
      rfl
  | cons id rest ih =>
    rcases first : s.fill c (Query.new id) t with ⟨why | q, v⟩
    · rw [fillAll_cons_error first] at filled
      cases filled
    · rw [fillAll_cons_ok first] at filled
      rcases rested : fillAll s c rest v with ⟨why | rs, w⟩
      · rw [rested] at filled
        cases filled
      · rw [rested] at filled
        obtain ⟨rfl, rfl⟩ : q :: rs = qs ∧ w = u := by simpa [Except.map] using filled
        rw [List.cons_append, fillAll_cons_ok first, ih rested]
        cases (fillAll s c later w).1 <;> rfl

variable [WordSource σ] {b : Backend} {layout : Sql.TagLayout}

theorem fillAll_shift (b : Backend) (layout : Sql.TagLayout) (first : Nat) (ids : List Nat)
    (t : Sampler σ) :
    fillAll s (b.compiler layout) (ids.map (first + ·)) t =
      ((fillAll s (b.compiler layout) ids t).1.map (List.map (Query.shift first)),
        (fillAll s (b.compiler layout) ids t).2) := by
  induction ids generalizing t with
  | nil => rfl
  | cons id rest ih =>
    -- A new query with a shifted id is a shifted new query.
    have shifted := s.fill_shift b layout first (Query.new id) t
    change s.fill (b.compiler layout) (Query.new (first + id)) t = _ at shifted
    rcases filled : s.fill (b.compiler layout) (Query.new id) t with ⟨why | q, u⟩
    · rw [filled] at shifted
      rw [List.map_cons, fillAll_cons_error shifted, fillAll_cons_error filled]
      rfl
    · rw [filled] at shifted
      rw [List.map_cons, fillAll_cons_ok shifted, fillAll_cons_ok filled, ih]
      cases (fillAll s (b.compiler layout) rest u).1 <;> rfl

theorem fillAll_ok {ids : List Nat} {t : Sampler σ} {qs : List Query}
    (filled : (fillAll s (b.compiler layout) ids t).1 = .ok qs) :
    qs.map Query.id = ids ∧ ∀ q ∈ qs, q.isFilled = true := by
  induction ids generalizing t qs with
  | nil =>
    cases filled
    exact ⟨rfl, nofun⟩
  | cons id rest ih =>
    rcases first : s.fill (b.compiler layout) (Query.new id) t with ⟨why | q, u⟩
    · rw [fillAll_cons_error first] at filled
      cases filled
    · rw [fillAll_cons_ok first] at filled
      obtain ⟨rs, rested, rfl⟩ := Outcome.map_eq_ok.1 filled
      obtain ⟨ids, all⟩ := ih rested
      obtain ⟨_, x, _, filledFor⟩ := Scenario.fill_ok (congrArg Prod.fst first)
      refine ⟨?_, ?_⟩
      · rw [List.map_cons, ids, filledFor.id]
        rfl
      · rintro p member
        rcases List.mem_cons.1 member with rfl | later
        · exact filledFor.isFilled
        · exact all p later

theorem drawable_of_fillAll {id : Nat} {rest : List Nat} {t : Sampler σ} {qs : List Query}
    (filled : (fillAll s (b.compiler layout) (id :: rest) t).1 = .ok qs) :
    s.Within b ∧ (∃ metrics, s.resolve = .ok metrics) ∧ s.Drawable t.population t.range := by
  rcases first : s.fill (b.compiler layout) (Query.new id) t with ⟨why | q, u⟩
  · rw [fillAll_cons_error first] at filled
    cases filled
  · obtain ⟨within, x, asked, _⟩ := Scenario.fill_ok (congrArg Prod.fst first)
    obtain ⟨_, drawable, resolved⟩ := Scenario.ask_ok asked
    exact ⟨within, resolved, drawable⟩

theorem keeps_fillAll (layout : Sql.TagLayout) (within : s.Within b) {metrics : List String}
    (resolved : s.resolve = .ok metrics) (ids : List Nat) :
    Sampling.Keeps (fillAll s (b.compiler layout : Compiler σ) ids) := by
  induction ids with
  | nil => exact Sampling.keeps_pure _
  | cons id rest ih =>
    have first : Sampling.Keeps (s.fill (b.compiler layout : Compiler σ) (Query.new id)) :=
      Scenario.keeps_fill layout within resolved _
    exact first.bind fun _ => ih.bind fun _ => Sampling.keeps_pure _

theorem fillAll_of_drawable (layout : Sql.TagLayout) (within : s.Within b) {metrics : List String}
    (resolved : s.resolve = .ok metrics) (ids : List Nat) {t : Sampler σ}
    (drawable : s.Drawable t.population t.range) :
    (∃ qs, (fillAll s (b.compiler layout) ids t).1 = .ok qs) ∨
      (fillAll s (b.compiler layout) ids t).1 = .error (.fault .pastCalendar) ∧
        ¬ t.range.Clear := by
  -- What can be drawn depends on the range and the fleet only, and those stay as they are.
  induction ids generalizing t with
  | nil => exact .inl ⟨[], rfl⟩
  | cons id rest ih =>
    have kept := Scenario.keeps_fill layout within resolved (Query.new id) t
    rcases Scenario.fill_of_drawable layout within resolved drawable (Query.new id) with
      ⟨q, filled⟩ | ⟨late, unclear⟩
    · rcases first : s.fill (b.compiler layout) (Query.new id) t with ⟨r, u⟩
      rw [first] at filled kept
      cases filled
      rw [fillAll_cons_ok first]
      rcases ih (t := u) (by rwa [kept.1, kept.2]) with ⟨qs, rested⟩ | ⟨late, unclear⟩
      · exact .inl ⟨q :: qs, by rw [rested]; rfl⟩
      · exact .inr ⟨by rw [late]; rfl, kept.1 ▸ unclear⟩
    · rcases first : s.fill (b.compiler layout) (Query.new id) t with ⟨r, u⟩
      rw [first] at late
      cases late
      exact .inr ⟨by rw [fillAll_cons_error first], unclear⟩

theorem fillAll_more {ids : List Nat} {t : Sampler σ} {qs : List Query} (begun : ids ≠ [])
    (filled : (fillAll s (b.compiler layout) ids t).1 = .ok qs) (later : List Nat) :
    (∃ rs, (fillAll s (b.compiler layout) (ids ++ later) t).1 = .ok (qs ++ rs)) ∨
      (fillAll s (b.compiler layout) (ids ++ later) t).1 = .error (.fault .pastCalendar) ∧
        ¬ t.range.Clear := by
  -- The first query shows that the scenario can be drawn, and so it can be after the batch.
  obtain ⟨id, rest, rfl⟩ := List.exists_cons_of_ne_nil begun
  obtain ⟨within, ⟨metrics, resolved⟩, drawable⟩ := drawable_of_fillAll filled
  have kept := keeps_fillAll layout within resolved (id :: rest) t
  rcases done : fillAll s (b.compiler layout) (id :: rest) t with ⟨r, u⟩
  rw [done] at filled kept
  cases filled
  rw [fillAll_append done]
  rcases fillAll_of_drawable layout within resolved later (t := u) (by rwa [kept.1, kept.2]) with
    ⟨rs, rested⟩ | ⟨late, unclear⟩
  · exact .inl ⟨rs, by rw [rested]; rfl⟩
  · exact .inr ⟨by rw [late]; rfl, kept.1 ▸ unclear⟩

end Workload

end QueryWorkload
