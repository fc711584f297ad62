import Mathlib.Tactic.Ring
import QueryWorkload.Random.Draw

set_option autoImplicit false

namespace QueryWorkload.Draw

theorem whole_mul_add_rest (size word bound : Nat) :
    whole size word bound * size + rest size word bound = word * bound := by
  rw [Nat.mul_comm (whole size word bound)]
  exact Nat.div_add_mod (word * bound) size

theorem whole_lt {size word bound : Nat} (inside : word < size) (positive : 0 < bound) :
    whole size word bound < bound := by
  apply Nat.div_lt_of_lt_mul
  exact Nat.mul_lt_mul_of_pos_right inside positive

theorem succ_whole_lt_of_isOpen {size word bound : Nat} (inside : word < size)
    (undecided : isOpen size word bound = true) : whole size word bound + 1 < bound := by
  have product := whole_mul_add_rest size word bound
  have next := Nat.mul_le_mul_right bound (show word + 1 ≤ size from inside)
  -- An open draw leaves more than the distance to the next multiple, so it is below the last one.
  simp only [isOpen, decide_eq_true_eq] at undecided
  rw [Nat.succ_mul, ← product] at next
  have less : (whole size word bound + 1) * size < bound * size := by
    rw [Nat.succ_mul, Nat.mul_comm bound]
    omega
  exact Nat.lt_of_mul_lt_mul_right less

theorem carried_lt {size first second bound : Nat} (inside : first < size)
    (undecided : isOpen size first bound = true) : carried size first second bound < bound := by
  have room := succ_whole_lt_of_isOpen inside undecided
  simp only [carried]
  split <;> omega

variable {σ : Type} [WordSource σ]

theorem below32_lt {bound : Nat} (positive : 0 < bound) (s : σ) : (below32 bound s).1 < bound := by
  have inside : (WordSource.next32 s).1.toNat < UInt32.size := (WordSource.next32 s).1.toNat_lt
  by_cases undecided : isOpen UInt32.size (WordSource.next32 s).1.toNat bound = true
  · simpa only [below32, if_pos undecided] using carried_lt inside undecided
  · simpa only [below32, if_neg undecided] using whole_lt inside positive

theorem below64_lt {bound : Nat} (positive : 0 < bound) (s : σ) : (below64 bound s).1 < bound := by
  have inside : (WordSource.next64 s).1.toNat < UInt64.size := (WordSource.next64 s).1.toNat_lt
  by_cases undecided : isOpen UInt64.size (WordSource.next64 s).1.toNat bound = true
  · simpa only [below64, if_pos undecided] using carried_lt inside undecided
  · simpa only [below64, if_neg undecided] using whole_lt inside positive

theorem greatest_mul {size bound : Nat} (positive : 0 < bound) (fits : bound ≤ size) :
    (size - 1) * bound = (bound - 1) * size + (size - bound) := by
  obtain ⟨n, rfl⟩ : ∃ n, bound = n + 1 := ⟨bound - 1, by omega⟩
  obtain ⟨k, rfl⟩ : ∃ k, size = n + 1 + k := ⟨size - (n + 1), by omega⟩
  rw [show n + 1 + k - 1 = n + k by omega, show n + 1 - 1 = n by omega,
    show n + 1 + k - (n + 1) = k by omega]
  ring

theorem whole_greatest {size bound : Nat} (positive : 0 < bound) (fits : bound ≤ size) :
    whole size (size - 1) bound = bound - 1 := by
  have left : size - bound < size := by omega
  rw [whole, greatest_mul positive fits, Nat.mul_comm, Nat.mul_add_div (by omega),
    Nat.div_eq_of_lt left, Nat.add_zero]

theorem isOpen_greatest {size bound : Nat} (positive : 0 < bound) (fits : bound ≤ size) :
    isOpen size (size - 1) bound = false := by
  have left : size - bound < size := by omega
  rw [isOpen, rest, greatest_mul positive fits, Nat.mul_add_mod_self_right, Nat.mod_eq_of_lt left]
  simp only [decide_eq_false_iff_not]
  omega

theorem below64_of_greatest {bound : Nat} {s : σ} (positive : 0 < bound)
    (fits : bound ≤ UInt64.size) (greatest : (WordSource.next64 s).1.toNat = UInt64.size - 1) :
    (below64 bound s).1 = bound - 1 := by
  have decided : ¬ isOpen UInt64.size (WordSource.next64 s).1.toNat bound = true := by
    rw [greatest, isOpen_greatest positive fits]
    exact Bool.false_ne_true
  simp only [below64, if_neg decided]
  rw [greatest, whole_greatest positive fits]

-- The least word whose product with the bound holds `n` whole sizes.
def leastWord (size bound n : Nat) : Nat :=
  (n * size + (bound - 1)) / bound

theorem leastWord_mul_bounds (size n : Nat) {bound : Nat} (positive : 0 < bound) :
    n * size ≤ leastWord size bound n * bound ∧
      leastWord size bound n * bound < n * size + bound := by
  have below := Nat.div_mul_le_self (n * size + (bound - 1)) bound
  have above := Nat.lt_div_mul_add (a := n * size + (bound - 1)) positive
  simp only [leastWord]
  omega

theorem whole_leastWord {size bound n : Nat} (positive : 0 < bound) (fits : bound ≤ size) :
    whole size (leastWord size bound n) bound = n := by
  obtain ⟨low, high⟩ := leastWord_mul_bounds size n positive
  have next : (n + 1) * size = n * size + size := Nat.succ_mul n size
  exact Nat.div_eq_of_lt_le low (by omega)

theorem leastWord_lt {size bound n : Nat} (below : n < bound) (fits : bound ≤ size) :
    leastWord size bound n < size := by
  have high := (leastWord_mul_bounds size n (Nat.zero_lt_of_lt below)).2
  have last : (n + 1) * size ≤ bound * size := Nat.mul_le_mul_right size below
  have next : (n + 1) * size = n * size + size := Nat.succ_mul n size
  have product : leastWord size bound n * bound < size * bound := by
    rw [Nat.mul_comm size bound]
    omega
  exact Nat.lt_of_mul_lt_mul_right product

theorem carried_zero {size : Nat} (positive : 0 < size) (first bound : Nat) :
    carried size first 0 bound = whole size first bound := by
  have left : rest size first bound < size := Nat.mod_lt _ positive
  have least : whole size 0 bound = 0 := by simp [whole]
  simp [carried, least, left]

-- Words that draw `n`. Should the first one leave the carry open, the second one settles that there
-- is none.
def wordsFor (bound n : Nat) : Script :=
  .ofList [UInt64.ofNat (leastWord UInt64.size bound n), 0]

theorem below64_wordsFor {bound n : Nat} (below : n < bound) (fits : bound ≤ UInt64.size) :
    (below64 bound (wordsFor bound n)).1 = n := by
  have word : (WordSource.next64 (wordsFor bound n)).1.toNat = leastWord UInt64.size bound n :=
    UInt64.toNat_ofNat_of_lt (leastWord_lt below fits)
  have second : (WordSource.next64 (WordSource.next64 (wordsFor bound n)).2).1.toNat = 0 := rfl
  have first := whole_leastWord (n := n) (Nat.zero_lt_of_lt below) fits
  simp only [below64, word, second]
  split
  · rw [carried_zero (by decide), first]
  · exact first

end QueryWorkload.Draw
