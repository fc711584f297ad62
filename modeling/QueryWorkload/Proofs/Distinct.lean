import QueryWorkload.Proofs.Numeral
import QueryWorkload.Proofs.Uniform

set_option autoImplicit false

namespace QueryWorkload

namespace Shuffle

theorem swapIfInBounds_perm (indices : Array Nat) (i j : Nat) :
    (indices.swapIfInBounds i j).Perm indices := by
  simp only [Array.swapIfInBounds_def]
  split
  · split
    · exact Array.swap_perm _ _
    · exact .refl _
  · exact .refl _

theorem apply_perm (indices : Array Nat) (place : Nat) (swaps : List Nat) :
    (apply indices place swaps).Perm indices := by
  induction swaps generalizing indices place with
  | nil => exact .refl _
  | cons j rest ih => exact (ih _ _).trans (swapIfInBounds_perm indices place j)

theorem chosen_perm_range (count : Nat) (swaps : List Nat) :
    (chosen count count swaps).Perm (List.range count) := by
  have whole : (apply (Array.range count) 0 swaps).size = count := by
    simp [size_apply]
  have all : (apply (Array.range count) 0 swaps).extract 0 count = apply (Array.range count) 0 swaps :=
    Array.extract_eq_self_of_le (Nat.le_of_eq whole)
  have permuted := (apply_perm (Array.range count) 0 swaps).toList
  simpa [chosen, all] using permuted

theorem Fits.le_of_getElem? {place : Nat} {swaps : List Nat} (fits : Fits place swaps) {n j : Nat}
    (placed : swaps[n]? = some j) : j ≤ place + n := by
  induction swaps generalizing place n with
  | nil => cases placed
  | cons first rest ih =>
    cases n with
    | zero =>
      cases placed
      exact fits.1
    | succ n =>
      have later := ih fits.2 placed
      omega

variable {σ : Type} [WordSource σ]

theorem draw_mem_swaps {count total : Nat} (wanted : 1 ≤ count) (fits : count ≤ total) (s : σ) :
    (draw count total s).1 ∈ Swaps (total - count) count := by
  have positive : ∀ c ∈ chunks count total, 0 < c.bound := fun c => bound_pos_of_mem_chunksFrom
  have bounded := drawn_bounded positive s
  rw [draw_eq]
  exact (held_spread wanted fits).maps bounded

end Shuffle

namespace Names

theorem name_injective (kind : EntityKind) : Function.Injective (name kind) := by
  intro i j same
  have letters := congrArg String.toList same
  simp only [name, String.toList_append, Text.toList_numeral, List.append_cancel_left_eq] at letters
  exact Text.digits_injective letters

theorem check_of_outside (kind : EntityKind) {count total : Nat}
    (outside : ¬ (1 ≤ count ∧ count ≤ total)) :
    check kind count total = .error (.refused (.outOfBounds kind.word count total)) := by
  simp [check, checkCount, outside]

theorem check_of_inside (kind : EntityKind) {count total : Nat} (small : total < UInt32.size)
    (inside : 1 ≤ count ∧ count ≤ total) : check kind count total = .ok () := by
  have memory : total * indexSize < Text.signedLimit := by
    simp only [UInt32.size, indexSize, Text.signedLimit] at *
    omega
  simp [check_ok_iff, checkCount_ok_iff, Fault.checkMemory_ok_iff, inside, memory]

variable {σ : Type} [WordSource σ]

/-- A count that does not fit is refused, and nothing else is. For one that fits, the swaps stay in the
list of the indices, and the names are those of the indices that the swaps choose: different ones, each
below the total. -/
theorem draw_distinct (kind : EntityKind) (count : Nat) {total : Nat} (small : total < UInt32.size)
    (s : σ) :
    (∀ why, (draw kind count total s).1 = .error why ↔
      (count = 0 ∨ total < count) ∧ why = .refused (.outOfBounds kind.word count total)) ∧
    (1 ≤ count → count ≤ total →
      ∃ swaps indices names, swaps = (Shuffle.draw count total s).1 ∧ swaps.length = count ∧
        (∀ n j, swaps[n]? = some j → j ≤ total - count + n ∧ total - count + n < total) ∧
        indices = Shuffle.chosen count total swaps ∧ (∀ i ∈ indices, i < total) ∧
        (count = total → indices.Perm (List.range total)) ∧
        names = indices.map (fun i => kind.word ++ "_" ++ Text.numeral i) ∧
        names.length = count ∧ names.Nodup ∧ (draw kind count total s).1 = .ok names) := by
  constructor
  · intro why
    have complement : (count = 0 ∨ total < count) ↔ ¬ (1 ≤ count ∧ count ≤ total) := by omega
    by_cases inside : 1 ≤ count ∧ count ≤ total
    · simp [draw_of_ok (check_of_inside kind small inside), complement, inside]
    · simp [draw_of_error (check_of_outside kind inside), complement, inside, eq_comm]
  · intro positive fits
    have swapped := Shuffle.draw_mem_swaps positive fits s
    obtain ⟨length, different, below⟩ := (Shuffle.chosen_bijOn fits).mapsTo swapped
    refine ⟨_, _, _, rfl, swapped.1, ?_, rfl, below, ?_, rfl, ?_, ?_, ?_⟩
    · intro n j placed
      obtain ⟨short, _⟩ := List.getElem?_eq_some_iff.1 placed
      rw [swapped.1] at short
      exact ⟨swapped.2.le_of_getElem? placed, by omega⟩
    · intro whole
      subst whole
      exact Shuffle.chosen_perm_range _ _
    · simp [length]
    · exact different.map (name_injective kind)
    · rw [draw_of_ok (check_of_inside kind small ⟨positive, fits⟩)]
      rfl

theorem draw_distinct_of_three :
    ∃ (indices : List Nat) (names : List String), (draw .replicaSet 3 3 (Script.ofList [11, 4])).1 = .ok names ∧
      names.length = 3 ∧ names.Nodup ∧ indices.Perm (List.range 3) ∧
      names = indices.map fun i => "replica" ++ "_" ++ Text.numeral i := by
  obtain ⟨_, drawn⟩ := draw_distinct .replicaSet 3 (by decide : 3 < UInt32.size)
    (Script.ofList [11, 4])
  obtain ⟨_, indices, names, _, _, _, _, _, whole, named, length, different, done⟩ :=
    drawn (by decide) (by decide)
  exact ⟨indices, names, done, length, different, whole rfl, named⟩

end Names

end QueryWorkload
