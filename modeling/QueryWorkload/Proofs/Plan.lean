import QueryWorkload.Plan
import QueryWorkload.Proofs.Names
import QueryWorkload.Proofs.Outcome

set_option autoImplicit false

namespace QueryWorkload.Plan

theorem first_succ (queries workers worker : Nat) :
    (shareOf queries workers (worker + 1)).first =
      (shareOf queries workers worker).first + (shareOf queries workers worker).count := by
  simp only [shareOf, Nat.succ_mul]
  split <;> omega

theorem first_workers {workers : Nat} (positive : 0 < workers) (queries : Nat) :
    (shareOf queries workers workers).first = queries := by
  have extra := Nat.mod_lt queries positive
  have whole := Nat.div_add_mod queries workers
  simp only [shareOf]
  rw [Nat.min_eq_right (Nat.le_of_lt extra)]
  exact whole

theorem flatMap_shares (queries workers count : Nat) :
    ((List.range count).map (shareOf queries workers)).flatMap ids =
      List.range (shareOf queries workers count).first := by
  induction count with
  | zero => simp [shareOf]
  | succ count ih =>
    rw [List.range_succ, List.map_append, List.flatMap_append, ih, List.map_singleton,
      List.flatMap_singleton, first_succ, ids, List.range_eq_range', List.range_eq_range',
      ← List.range'_append_1, Nat.zero_add]

theorem flatMap_split (queries workers : Nat) :
    (split queries workers).flatMap ids = List.range queries := by
  have positive : 0 < max workers 1 := by omega
  rw [split, flatMap_shares, first_workers positive]

theorem count_le {queries workers : Nat} (positive : 0 < workers) (worker : Nat) :
    (shareOf queries workers worker).count ≤ queries := by
  have whole := Nat.div_add_mod queries workers
  have base : queries / workers ≤ workers * (queries / workers) := Nat.le_mul_of_pos_left _ positive
  simp only [shareOf]
  split <;> omega

theorem count_le_of_mem {queries workers : Nat} {p : Plan} (member : p ∈ split queries workers) :
    p.count ≤ queries := by
  obtain ⟨worker, _, rfl⟩ := List.mem_map.1 member
  exact count_le (by omega) worker

-- A share of a 64-bit number of queries is one itself.
theorem toNat_toUInt64 {few : Nat} {queries : UInt64} (small : few ≤ queries.toNat) :
    few.toUInt64.toNat = few := by
  have bound := queries.toNat_lt
  exact Nat.mod_eq_of_lt (by omega)

theorem split_one (queries : Nat) : split queries 1 = [⟨0, 0, queries⟩] := by
  simp [split, shareOf, Nat.mod_one]

theorem ids_from_zero {few many : Nat} (larger : few ≤ many) :
    ids ⟨0, 0, many⟩ = ids ⟨0, 0, few⟩ ++ List.range' few (many - few) := by
  have whole := Nat.add_sub_cancel' larger
  have joined := @List.range'_append_1 0 few (many - few)
  rw [whole, Nat.zero_add] at joined
  exact joined.symm

theorem arrange_eq_ok {queries workers : Nat} {plans : List Plan} :
    arrange queries workers = .ok plans ↔
      Fault.checkMemory size (max workers 1) = .ok () ∧ split queries workers = plans := by
  unfold arrange
  rw [Outcome.bind_unit_eq_ok, Outcome.pure_eq_ok]

theorem seed_zero (base : UInt64) : seed base 0 = base := by
  simp [seed]

end QueryWorkload.Plan
