import QueryWorkload.Names
import QueryWorkload.Proofs.Outcome

set_option autoImplicit false

namespace QueryWorkload

theorem checkCount_ok_iff (what : String) (count total : Nat) :
    checkCount what count total = .ok () ↔ 1 ≤ count ∧ count ≤ total := by
  simp only [checkCount]
  split <;> simp_all

theorem Fault.checkMemory_ok_iff (size count : Nat) :
    Fault.checkMemory size count = .ok () ↔ count * size < Text.signedLimit := by
  simp only [Fault.checkMemory]
  split <;> simp_all

namespace Shuffle

theorem size_apply (indices : Array Nat) (place : Nat) (swaps : List Nat) :
    (apply indices place swaps).size = indices.size := by
  induction swaps generalizing indices place with
  | nil => rfl
  | cons j rest ih => simp [apply, ih]

theorem length_chosen {count total : Nat} (fits : count ≤ total) (swaps : List Nat) :
    (chosen count total swaps).length = count := by
  simp only [chosen, Array.length_toList, Array.size_extract, size_apply, Array.size_range]
  omega

end Shuffle

namespace Names

theorem check_ok_iff (kind : EntityKind) (count total : Nat) :
    check kind count total = .ok () ↔
      checkCount kind.word count total = .ok () ∧
        Fault.checkMemory indexSize total = .ok () := by
  unfold check
  rw [Outcome.bind_unit_eq_ok, Outcome.mapError_eq_ok, Outcome.mapError_eq_ok]

variable {σ : Type} [WordSource σ]

theorem draw_of_error {kind : EntityKind} {count total : Nat} {why : Failure}
    (refused : check kind count total = .error why) (s : σ) :
    draw kind count total s = (.error why, s) := by
  simp only [draw, refused]

theorem draw_of_ok {kind : EntityKind} {count total : Nat} (checked : check kind count total = .ok ())
    (s : σ) :
    draw kind count total s =
      (.ok ((Shuffle.chosen count total (Shuffle.draw count total s).1).map (name kind)),
        (Shuffle.draw count total s).2) := by
  simp only [draw, checked]

theorem length_of_draw {kind : EntityKind} {count total : Nat} {s : σ} {names : List String}
    (drawn : (draw kind count total s).1 = .ok names) :
    check kind count total = .ok () ∧ names.length = count ∧ 1 ≤ count := by
  cases checked : check kind count total with
  | error why =>
    rw [draw_of_error checked] at drawn
    cases drawn
  | ok _ =>
    rw [draw_of_ok checked] at drawn
    cases drawn
    have bounds := (checkCount_ok_iff _ _ _).1 ((check_ok_iff _ _ _).1 checked).1
    exact ⟨rfl, by rw [List.length_map, Shuffle.length_chosen bounds.2], bounds.1⟩

end Names

end QueryWorkload
