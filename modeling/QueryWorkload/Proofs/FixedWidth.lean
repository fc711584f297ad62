import QueryWorkload.Proofs.NumeralReading

set_option autoImplicit false

namespace QueryWorkload.Text

structure Fixed (width : Nat) (text : List Char) (n : Nat) : Prop where
  decimal : Decimal text n
  length_eq : text.length = width

theorem decimal_padLeft (width n : Nat) : Decimal (padLeft '0' width (digits n)) n where
  ne_nil := List.append_ne_nil_of_right_ne_nil _ Nat.toDigits_ne_nil
  isDigit _ := isDigit_of_mem_padLeft
  value := ofDigitChars_padLeft_digits width n

theorem fixed_padLeft {width n : Nat} (positive : 0 < width) (small : n < 10 ^ width) :
    Fixed width (padLeft '0' width (digits n)) n :=
  ⟨decimal_padLeft width n, length_padLeft_digits positive small⟩

theorem foldl_eq_ofDigitChars (run : List Char) (acc : Nat) :
    run.foldl (fun n c => n * 10 + (c.toNat - '0'.toNat)) acc = Nat.ofDigitChars 10 run acc := by
  rw [Nat.ofDigitChars_eq_foldl]
  simp only [Nat.mul_comm 10]

theorem ofDigitChars_cons (c : Char) (run : List Char) :
    Nat.ofDigitChars 10 (c :: run) 0 =
      (c.toNat - 48) * 10 ^ run.length + Nat.ofDigitChars 10 run 0 := by
  rw [Nat.ofDigitChars_cons, Nat.ofDigitChars_eq_ofDigitChars_zero, Nat.mul_zero, Nat.zero_add,
    Nat.mul_comm]
  rfl

theorem ofDigitChars_lt {run : List Char} (numeric : ∀ c ∈ run, c.isDigit = true) :
    Nat.ofDigitChars 10 run 0 < 10 ^ run.length := by
  induction run with
  | nil => exact Nat.one_pos
  | cons c run ih =>
    have digit := (isDigit_iff c).1 (numeric c List.mem_cons_self)
    have later := ih fun d member => numeric d (List.mem_cons_of_mem c member)
    have place : (c.toNat - 48) * 10 ^ run.length ≤ 9 * 10 ^ run.length :=
      Nat.mul_le_mul_right _ (by omega)
    rw [ofDigitChars_cons, List.length_cons, Nat.pow_succ]
    omega

-- The first digit that differs decides, both between the texts and between the numbers.
theorem lt_iff_ofDigitChars_lt {a b : List Char} (same : a.length = b.length)
    (left : ∀ c ∈ a, c.isDigit = true) (right : ∀ c ∈ b, c.isDigit = true) :
    a < b ↔ Nat.ofDigitChars 10 a 0 < Nat.ofDigitChars 10 b 0 := by
  induction a generalizing b with
  | nil =>
    rw [List.length_eq_zero_iff.1 same.symm]
    simp
  | cons c a ih =>
    cases b with
    | nil => simp at same
    | cons d b =>
      have lengths : a.length = b.length := Nat.succ.inj same
      have digit := (isDigit_iff c).1 (left c List.mem_cons_self)
      have digit' := (isDigit_iff d).1 (right d List.mem_cons_self)
      have first : c < d ↔ c.toNat < d.toNat := UInt32.lt_iff_toNat_lt
      have equal : c = d ↔ c.toNat = d.toNat := Char.toNat_inj.symm
      have later := ih lengths (fun e member => left e (List.mem_cons_of_mem c member))
        (fun e member => right e (List.mem_cons_of_mem d member))
      have small := ofDigitChars_lt fun e member => left e (List.mem_cons_of_mem c member)
      have small' := ofDigitChars_lt fun e member => right e (List.mem_cons_of_mem d member)
      rw [List.cons_lt_cons_iff, ofDigitChars_cons, ofDigitChars_cons, later, first, equal]
      rw [lengths] at small ⊢
      generalize 10 ^ b.length = place at *
      rcases Nat.lt_trichotomy c.toNat d.toNat with less | same | greater
      · have apart : (c.toNat - 48) * place + place ≤ (d.toNat - 48) * place := by
          rw [← Nat.succ_mul]
          exact Nat.mul_le_mul_right _ (by omega)
        omega
      · rw [same]
        omega
      · have apart : (d.toNat - 48) * place + place ≤ (c.toNat - 48) * place := by
          rw [← Nat.succ_mul]
          exact Nat.mul_le_mul_right _ (by omega)
        omega

theorem append_lt_append_iff {α : Type} [LT α] {a b : List α} (same : a.length = b.length)
    (x y : List α) : a ++ x < b ++ y ↔ a < b ∨ a = b ∧ x < y := by
  induction a generalizing b with
  | nil =>
    rw [List.length_eq_zero_iff.1 same.symm]
    simp
  | cons c a ih =>
    cases b with
    | nil => simp at same
    | cons d b =>
      simp only [List.cons_append, List.cons_lt_cons_iff, ih (Nat.succ.inj same), List.cons.injEq]
      grind

namespace Fixed

variable {width m n : Nat} {a b : List Char}

theorem lt_iff (left : Fixed width a m) (right : Fixed width b n) : a < b ↔ m < n := by
  rw [lt_iff_ofDigitChars_lt (left.length_eq.trans right.length_eq.symm) left.decimal.isDigit
    right.decimal.isDigit, left.decimal.value, right.decimal.value]

theorem eq_iff (left : Fixed width a m) (right : Fixed width b n) : a = b ↔ m = n := by
  constructor
  · intro same
    rw [← left.decimal.value, ← right.decimal.value, same]
  · intro same
    subst same
    have notLess := (left.lt_iff right).not.2 (Nat.lt_irrefl m)
    have notGreater := (right.lt_iff left).not.2 (Nat.lt_irrefl m)
    exact List.le_antisymm notGreater notLess

theorem append_lt_iff (left : Fixed width a m) (right : Fixed width b n) (x y : List Char) :
    a ++ x < b ++ y ↔ m < n ∨ m = n ∧ x < y := by
  rw [append_lt_append_iff (left.length_eq.trans right.length_eq.symm), left.lt_iff right,
    left.eq_iff right]

end Fixed

end QueryWorkload.Text
