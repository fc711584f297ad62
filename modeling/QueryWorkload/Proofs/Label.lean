import QueryWorkload.Proofs.DurationReading
import QueryWorkload.Proofs.Validation

set_option autoImplicit false

namespace QueryWorkload

open Text

namespace MetricSelection

theorem count_normalized (m : MetricSelection) : m.normalized.count = m.count := by
  unfold normalized ofCount
  split_ifs with covers
  · exact covers.symm
  · rfl

theorem normalized_eq_of_count_eq {m n : MetricSelection} (same : m.count = n.count) :
    m.normalized = n.normalized :=
  congrArg ofCount same

theorem resolve_normalized (m : MetricSelection) : m.normalized.resolve = m.resolve := by
  rw [resolve_eq_first, count_normalized, resolve_eq_first]

end MetricSelection

namespace Scenario

theorem label_normalized (s : Scenario) : s.normalized.label = s.label := by
  cases s with
  | hourlyAverage m scope count d =>
    unfold normalized label
    simp only [MetricSelection.count_normalized]
  | _ => rfl

theorem resolve_normalized (s : Scenario) : s.normalized.resolve = s.resolve := by
  cases s with
  | hourlyAverage m scope count d =>
    simp only [normalized, resolve, metrics?, MetricSelection.resolve_normalized]
  | _ => rfl

-- What the label starts with, if it is not a digit.
def opening? : Scenario → Option Char
  | .allMetrics _ _ _ => some 'a'
  | .hourlyAverage _ _ _ _ => none
  | .lastPoint _ => some 'l'
  | .lastPointPrimaries => some 'l'
  | .top _ _ _ => some 't'
  | .counterRate _ _ => some 'c'

theorem opening?_eq (s : Scenario) :
    s.opening? = s.label.toList.head?.filter fun c => !c.isDigit := by
  unfold label
  cases s with
  | hourlyAverage m scope count d =>
    obtain ⟨c, rest, split, digit⟩ := exists_digits_eq_cons m.count
    simp [opening?, split, digit, Option.filter]
  | _ => simp [opening?, Option.filter]

theorem scopeText_append_inj {a b : Scope} {x y : List Char}
    (same : (scopeText a).toList ++ x = (scopeText b).toList ++ y) : a = b ∧ x = y := by
  cases a <;> cases b <;> simp_all [scopeText]

theorem ends_ranked (primaries : Bool) (text : List Char) :
    Ends Char.isDigit ((if primaries then " primaries" else " hosts").toList ++ text) := by
  cases primaries <;> simp [Ends]

theorem ranked_append_inj {a b : Bool} {x y : List Char}
    (same : (if a then " primaries" else " hosts").toList ++ x =
      (if b then " primaries" else " hosts").toList ++ y) : a = b ∧ x = y := by
  cases a <;> cases b <;> simp_all

-- The first character tells the kinds apart, but for those of the latest readings. Within a kind
-- every number is followed by something else than a digit, so the parts are read off from the left.
theorem label_injective {s s' : Scenario} (same : s.label = s'.label) :
    s.normalized = s'.normalized := by
  have kinds : s.opening? = s'.opening? := by rw [opening?_eq, opening?_eq, same]
  have letters := congrArg String.toList same
  unfold label at letters
  cases s with
  | allMetrics scope count d =>
    cases s' with
    | allMetrics scope' count' d' =>
      simp only [String.toList_append, List.append_assoc] at letters
      obtain ⟨counts, letters⟩ := spacePadded_append_inj (by simp [Ends]) (by simp [Ends])
        (List.append_cancel_left letters)
      obtain ⟨scopes, letters⟩ := scopeText_append_inj (List.append_cancel_left letters)
      have windows := Duration.label_injective
        (String.toList_injective (List.append_cancel_left letters))
      rw [counts, scopes, windows]
    | _ => cases kinds
  | hourlyAverage m scope count d =>
    cases s' with
    | hourlyAverage m' scope' count' d' =>
      simp only [String.toList_append, List.append_assoc, toList_numeral] at letters
      obtain ⟨metrics, letters⟩ := digits_append_inj (by simp [Ends]) (by simp [Ends]) letters
      obtain ⟨counts, letters⟩ := spacePadded_append_inj (by simp [Ends]) (by simp [Ends])
        (List.append_cancel_left letters)
      obtain ⟨scopes, letters⟩ := scopeText_append_inj (List.append_cancel_left letters)
      have windows := Duration.label_injective
        (String.toList_injective (List.append_cancel_right (List.append_cancel_left letters)))
      rw [counts, scopes, windows]
      simp only [normalized, MetricSelection.normalized_eq_of_count_eq metrics]
    | _ => cases kinds
  | lastPoint hosts =>
    cases s' with
    | lastPoint hosts' =>
      simp only [String.toList_append, List.append_assoc, toList_numeral] at letters
      obtain ⟨counts, _⟩ := digits_append_inj (by simp [Ends]) (by simp [Ends])
        (List.append_cancel_left letters)
      rw [counts]
    | lastPointPrimaries => simp at letters
    | _ => cases kinds
  | lastPointPrimaries =>
    cases s' with
    | lastPoint hosts' => simp at letters
    | lastPointPrimaries => rfl
    | _ => cases kinds
  | top primaries k d =>
    cases s' with
    | top primaries' k' d' =>
      simp only [String.toList_append, List.append_assoc, toList_numeral] at letters
      obtain ⟨ranks, letters⟩ := digits_append_inj (ends_ranked primaries _)
        (ends_ranked primaries' _) (List.append_cancel_left letters)
      obtain ⟨sides, letters⟩ := ranked_append_inj letters
      have windows := Duration.label_injective
        (String.toList_injective (List.append_cancel_left letters))
      rw [ranks, sides, windows]
    | _ => cases kinds
  | counterRate hosts d =>
    cases s' with
    | counterRate hosts' d' =>
      simp only [String.toList_append, List.append_assoc] at letters
      obtain ⟨counts, letters⟩ := spacePadded_append_inj (by simp [Ends]) (by simp [Ends])
        (List.append_cancel_left letters)
      have windows := Duration.label_injective
        (String.toList_injective (List.append_cancel_left letters))
      rw [counts, windows]
    | _ => cases kinds

theorem newline_not_mem_label (s : Scenario) : '\n' ∉ s.label.toList := by
  have number (n : Nat) : '\n' ∉ digits n :=
    fun member => absurd (isDigit_of_mem_digits member) (by decide)
  have window (d : Duration) := d.newline_not_mem_label
  have kind (scope : Scope) : '\n' ∉ (scopeText scope).toList := by cases scope <;> decide
  unfold label
  cases s with
  | top primaries k d => cases primaries <;> simp [number, window]
  | _ => simp [number, window, kind]

end Scenario

namespace Backend

theorem newline_not_mem_title (b : Backend) : '\n' ∉ b.title.toList := by
  cases b <;> decide

end Backend

namespace Scenario

variable {σ τ : Type} [WordSource σ] [WordSource τ]

/-- Labels of filled queries are one line each. They agree, after the name of the backend, for
scenarios that ask for the same, and for no others. -/
theorem fill_labels_identify {b b' : Backend} {layout layout' : Sql.TagLayout} {s s' : Scenario}
    {q q' r r' : Query} {t : Sampler σ} {u : Sampler τ}
    (filled : (s.fill (b.compiler layout) q t).1 = .ok r)
    (filled' : (s'.fill (b'.compiler layout') q' u).1 = .ok r') :
    ('\n' ∉ r.label.toList ∧ '\n' ∉ r'.label.toList) ∧
      (∃ rest rest', r.label = b.title ++ " " ++ rest ∧ r'.label = b'.title ++ " " ++ rest' ∧
        (rest = rest' ↔ s.normalized = s'.normalized)) ∧
      (b = b' → r.label = r'.label → s.normalized = s'.normalized ∧
        ∃ metrics, s.resolve = .ok metrics ∧ s'.resolve = .ok metrics) := by
  obtain ⟨_, x, asked, filledFor⟩ := fill_ok filled
  obtain ⟨_, x', _, filledFor'⟩ := fill_ok filled'
  have one (b : Backend) (s : Scenario) : '\n' ∉ (b.title ++ " " ++ s.label).toList := by
    simp [b.newline_not_mem_title, s.newline_not_mem_label]
  refine ⟨⟨?_, ?_⟩, ⟨s.label, s'.label, filledFor.label, filledFor'.label, label_injective, ?_⟩, ?_⟩
  · rw [filledFor.label]
    exact one b s
  · rw [filledFor'.label]
    exact one b' s'
  · intro same
    rw [← s.label_normalized, same, s'.label_normalized]
  · rintro rfl same
    rw [filledFor.label, filledFor'.label] at same
    have labels : s.label = s'.label := by simpa using same
    have scenarios := label_injective labels
    obtain ⟨_, _, metrics, resolved⟩ := ask_ok asked
    refine ⟨scenarios, metrics, resolved, ?_⟩
    rw [← s'.resolve_normalized, ← scenarios, s.resolve_normalized]
    exact resolved

theorem fill_labels_identify_of_all_metrics :
    let t : Sampler Script :=
      ⟨⟨.ofSeconds 1451606400, .ofSeconds 1451692800⟩, .standard, .ofList [7, 11]⟩
    let u : Sampler Script :=
      ⟨⟨.ofSeconds 0, .ofSeconds 86400⟩, .standard, .ofList [3]⟩
    ∃ r r' rest,
      ((hourlyAverage .all .hosts 2 (.ofSeconds 60)).fill (Backend.mongo.compiler .separate)
        (Query.new 0) t).1 = .ok r ∧
      ((hourlyAverage (.exactly 139) .hosts 2 (.ofSeconds 60)).fill
        (Backend.victoriaMetrics.compiler .separate) (Query.new 1) u).1 = .ok r' ∧
      r.label = Backend.mongo.title ++ " " ++ rest ∧
      r'.label = Backend.victoriaMetrics.title ++ " " ++ rest := by
  intro t u
  have held (m : MetricSelection) :
      (hourlyAverage m .hosts 2 (.ofSeconds 60)).Held Population.standard := by
    rintro kind count total ⟨⟩ ⟨⟩
    decide
  have all := ask_of_validate_ok (t := t) (held .all) ⟨by decide, by decide, by decide, by decide⟩
    (by decide)
  have exactly := ask_of_validate_ok (t := u) (held (.exactly 139))
    ⟨by decide, by decide, by decide, by decide⟩ (by decide)
  obtain ⟨r, filled⟩ := (fill_ok_iff .mongo .separate nofun (Query.new 0) t).2 all
  obtain ⟨r', filled'⟩ :=
    (fill_ok_iff .victoriaMetrics .separate (fun _ => rfl) (Query.new 1) u).2 exactly
  obtain ⟨_, ⟨rest, rest', left, right, same⟩, _⟩ := fill_labels_identify filled filled'
  have agree : rest = rest' := same.2 rfl
  rw [← agree] at right
  exact ⟨r, r', rest, filled, filled', left, right⟩

end Scenario

end QueryWorkload
