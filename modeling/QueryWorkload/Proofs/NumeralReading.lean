import Mathlib.Tactic.SplitIfs
import QueryWorkload.Proofs.Numeral
import QueryWorkload.Proofs.Outcome

set_option autoImplicit false

namespace QueryWorkload.Text

structure Decimal (run : List Char) (n : Nat) : Prop where
  ne_nil : run ≠ []
  isDigit : ∀ c ∈ run, c.isDigit = true
  value : Nat.ofDigitChars 10 run 0 = n

inductive Signed : List Char → Int → Prop where
  | bare {run : List Char} {n : Nat} (number : Decimal run n) : Signed run n
  | plus {run : List Char} {n : Nat} (number : Decimal run n) : Signed ('+' :: run) n
  | minus {run : List Char} {n : Nat} (number : Decimal run n) : Signed ('-' :: run) (-n)

def InInt64 (n : Int) : Prop :=
  -9223372036854775808 ≤ n ∧ n < 9223372036854775808

theorem isDigit_iff (c : Char) : c.isDigit = true ↔ 48 ≤ c.toNat ∧ c.toNat ≤ 57 := by
  simp [Char.isDigit, UInt32.le_iff_toNat_le]

theorem baseDigit?_ten (c : Char) :
    baseDigit? 10 c = if c.isDigit then some (c.toNat - '0'.toNat) else none := by
  have zero : '0'.toNat = 48 := rfl
  by_cases digit : c.isDigit = true
  · have bounds := (isDigit_iff c).1 digit
    simp [baseDigit?, digit, zero]
    omega
  · -- Letters stand for ten and more.
    simp only [baseDigit?, if_neg digit]
    split_ifs <;> simp

theorem le_ofDigitChars (run : List Char) (acc : Nat) : acc ≤ Nat.ofDigitChars 10 run acc := by
  induction run generalizing acc with
  | nil => exact Nat.le_refl acc
  | cons c run ih =>
    have later := ih (10 * acc + (c.toNat - '0'.toNat))
    rw [Nat.ofDigitChars_cons]
    omega

theorem readDigits_eq_ok_iff {limit acc n : Nat} {past : NumeralError} {run : List Char}
    (small : acc ≤ limit) :
    readDigits 10 limit past acc run = .ok n ↔
      (∀ c ∈ run, c.isDigit = true) ∧ Nat.ofDigitChars 10 run acc = n ∧ n ≤ limit := by
  induction run generalizing acc with
  | nil =>
    simp [readDigits]
    grind
  | cons c run ih =>
    rw [readDigits, baseDigit?_ten, Nat.ofDigitChars_cons, Nat.mul_comm 10 acc]
    by_cases digit : c.isDigit = true
    · simp only [digit, if_true]
      by_cases fits : acc * 10 + (c.toNat - '0'.toNat) ≤ limit
      · rw [if_pos fits, ih fits]
        simp [digit]
      · -- Further digits only make the number greater.
        have grows := le_ofDigitChars run (acc * 10 + (c.toNat - '0'.toNat))
        have large : Nat.ofDigitChars 10 run (acc * 10 + (c.toNat - '0'.toNat)) = n → limit < n := by
          intro same
          omega
        rw [if_neg fits]
        grind
    · simp [digit]

theorem Decimal.exists_digit {run : List Char} {n : Nat} (number : Decimal run n) :
    ∃ c rest, run = c :: rest ∧ c.isDigit = true := by
  obtain ⟨c, rest, rfl⟩ := List.exists_cons_of_ne_nil number.ne_nil
  exact ⟨c, rest, rfl, number.isDigit c List.mem_cons_self⟩

theorem readDigits_zero_eq_ok_iff {limit n : Nat} {past : NumeralError} {run : List Char}
    (begun : run ≠ []) :
    readDigits 10 limit past 0 run = .ok n ↔ Decimal run n ∧ n ≤ limit := by
  rw [readDigits_eq_ok_iff (Nat.zero_le limit)]
  constructor
  · intro ⟨digits, value, fits⟩
    exact ⟨⟨begun, digits, value⟩, fits⟩
  · intro ⟨number, fits⟩
    exact ⟨number.isDigit, number.value, fits⟩

theorem readNat_eq_ok_iff {limit n : Nat} {s : List Char} :
    readNat 10 limit s = .ok n ↔
      (Decimal s n ∨ ∃ run, s = '+' :: run ∧ Decimal run n) ∧ n ≤ limit := by
  have unsigned {rest : List Char} : ¬ Decimal ('+' :: rest) n := by
    intro number
    exact absurd (number.isDigit '+' List.mem_cons_self) (by decide)
  fun_cases readNat 10 limit s with
  | case1 =>
    have empty : ¬ Decimal [] n := fun number => number.ne_nil rfl
    simp [empty]
  | case2 =>
    have empty : ¬ Decimal [] n := fun number => number.ne_nil rfl
    simp [unsigned, empty]
  | case3 rest more => simp [readDigits_zero_eq_ok_iff more, unsigned]
  | case4 s some _ unsignedText =>
    have bare : ¬ ∃ run, s = '+' :: run ∧ Decimal run n := by
      intro ⟨run, split, _⟩
      exact unsignedText run split
    simp [readDigits_zero_eq_ok_iff some, bare]

theorem readInt64_minus_eq_ok_iff {rest : List Char} {i : Int} (begun : rest ≠ []) :
    readInt64 ('-' :: rest) = .ok i ↔ ∃ n, Decimal rest n ∧ n ≤ signedLimit ∧ -(n : Int) = i := by
  have negated : readInt64 ('-' :: rest) =
      (readDigits 10 signedLimit .tooSmall 0 rest).map fun n : Nat => -(n : Int) := by
    rw [readInt64]
    · cases readDigits 10 signedLimit .tooSmall 0 rest with
      | error why => rfl
      | ok n => rfl
    · exact begun
  simp [negated, Outcome.map_eq_ok, readDigits_zero_eq_ok_iff begun, and_assoc]

theorem readInt64_eq_ok_iff_of_not_minus {s : List Char} {i : Int} (other : s.head? ≠ some '-') :
    readInt64 s = .ok i ↔
      ∃ n, (Decimal s n ∨ ∃ run, s = '+' :: run ∧ Decimal run n) ∧ n < signedLimit ∧ (n : Int) = i := by
  have limit : ∀ n, n ≤ signedLimit - 1 ↔ n < signedLimit := by
    intro n
    simp only [signedLimit]
    omega
  have positive : readInt64 s = (readNat 10 (signedLimit - 1) s).map Int.ofNat := by
    rw [readInt64]
    · rintro rfl
      exact other rfl
    · rintro rest rfl
      exact other rfl
  simp [positive, Outcome.map_eq_ok, readNat_eq_ok_iff, limit, and_assoc]

theorem readInt64_eq_ok_iff {s : List Char} {i : Int} :
    readInt64 s = .ok i ↔ Signed s i ∧ InInt64 i := by
  have limit : (signedLimit : Int) = 2 ^ 63 := rfl
  constructor
  · intro read
    by_cases minus : s.head? = some '-'
    · obtain ⟨rest, rfl⟩ := List.head?_eq_some_iff.1 minus
      have begun : rest ≠ [] := by
        rintro rfl
        cases read
      obtain ⟨n, number, fits, rfl⟩ := (readInt64_minus_eq_ok_iff begun).1 read
      exact ⟨.minus number, by simp only [InInt64]; omega⟩
    · obtain ⟨n, number, fits, rfl⟩ := (readInt64_eq_ok_iff_of_not_minus minus).1 read
      have inside : InInt64 n := by simp only [InInt64]; omega
      rcases number with number | ⟨run, rfl, number⟩
      · exact ⟨.bare number, inside⟩
      · exact ⟨.plus number, inside⟩
  · intro ⟨signed, fits⟩
    simp only [InInt64] at fits
    cases signed with
    | bare number =>
      have other : s.head? ≠ some '-' := by
        obtain ⟨c, rest, rfl, digit⟩ := number.exists_digit
        intro minus
        cases minus
        exact absurd digit (by decide)
      exact (readInt64_eq_ok_iff_of_not_minus other).2 ⟨_, .inl number, by omega, rfl⟩
    | plus number =>
      exact (readInt64_eq_ok_iff_of_not_minus (by simp)).2
        ⟨_, .inr ⟨_, rfl, number⟩, by omega, rfl⟩
    | minus number =>
      exact (readInt64_minus_eq_ok_iff number.ne_nil).2 ⟨_, number, by omega, rfl⟩

end QueryWorkload.Text
