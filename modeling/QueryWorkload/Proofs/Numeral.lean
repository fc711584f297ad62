import Mathlib.Algebra.Ring.Nat
import Mathlib.Data.List.DropRight
import Mathlib.Data.List.TakeWhile
import QueryWorkload.Text.Numeral

set_option autoImplicit false

namespace QueryWorkload.Text

-- A run of characters in `p` does not go on into the text.
def Ends (p : Char → Bool) (text : List Char) : Prop :=
  ∀ c ∈ text.head?, p c = false

section Runs

variable {p : Char → Bool}

theorem ends_cons {c : Char} {text : List Char} : Ends p (c :: text) ↔ p c = false := by
  simp [Ends]

theorem takeWhile_run {run text : List Char} (within : ∀ c ∈ run, p c = true)
    (ends : Ends p text) : (run ++ text).takeWhile p = run := by
  rw [List.takeWhile_append_of_pos within]
  cases text with
  | nil => exact List.append_nil run
  | cons c text => simp [ends_cons.1 ends]

theorem dropWhile_run {run text : List Char} (within : ∀ c ∈ run, p c = true)
    (ends : Ends p text) : (run ++ text).dropWhile p = text := by
  rw [List.dropWhile_append_of_pos within]
  cases text with
  | nil => rfl
  | cons c text => simp [ends_cons.1 ends]

theorem run_append_inj {a b x y : List Char} (left : ∀ c ∈ a, p c = true)
    (right : ∀ c ∈ b, p c = true) (ends : Ends p x) (ends' : Ends p y) (same : a ++ x = b ++ y) :
    a = b ∧ x = y := by
  have runs := congrArg (List.takeWhile p) same
  have texts := congrArg (List.dropWhile p) same
  rw [takeWhile_run left ends, takeWhile_run right ends'] at runs
  rw [dropWhile_run left ends, dropWhile_run right ends'] at texts
  exact ⟨runs, texts⟩

end Runs

theorem isDigit_of_mem_digits {n : Nat} {c : Char} (member : c ∈ digits n) : c.isDigit = true :=
  Nat.isDigit_of_mem_toDigits (by decide) (by decide) member

theorem digits_injective {m n : Nat} (same : digits m = digits n) : m = n := by
  have values := congrArg (Nat.ofDigitChars 10 · 0) same
  simpa only [digits, Nat.ofDigitChars_ten_toDigits] using values

theorem exists_digits_eq_cons (n : Nat) : ∃ c rest, digits n = c :: rest ∧ c.isDigit = true := by
  obtain ⟨c, rest, split⟩ : ∃ c rest, digits n = c :: rest :=
    List.exists_cons_of_ne_nil Nat.toDigits_ne_nil
  refine ⟨c, rest, split, isDigit_of_mem_digits (n := n) ?_⟩
  rw [split]
  exact List.mem_cons_self

theorem digits_append_inj {m n : Nat} {x y : List Char} (ends : Ends Char.isDigit x)
    (ends' : Ends Char.isDigit y) (same : digits m ++ x = digits n ++ y) : m = n ∧ x = y := by
  obtain ⟨numerals, texts⟩ := run_append_inj (fun _ => isDigit_of_mem_digits)
    (fun _ => isDigit_of_mem_digits) ends ends' same
  exact ⟨digits_injective numerals, texts⟩

theorem ends_digits_append {p : Char → Bool} (apart : ∀ c : Char, c.isDigit = true → p c = false)
    (n : Nat) (text : List Char) : Ends p (digits n ++ text) := by
  obtain ⟨c, rest, split, digit⟩ := exists_digits_eq_cons n
  rw [split]
  exact ends_cons.2 (apart c digit)

@[simp]
theorem toList_numeral (n : Nat) : (numeral n).toList = digits n :=
  String.toList_ofList

@[simp]
theorem toList_spacePadded (width n : Nat) :
    (spacePadded width n).toList = List.replicate (width - (digits n).length) ' ' ++ digits n :=
  String.toList_ofList

theorem spacePadded_append_inj {width m n : Nat} {x y : List Char} (ends : Ends Char.isDigit x)
    (ends' : Ends Char.isDigit y)
    (same : (spacePadded width m).toList ++ x = (spacePadded width n).toList ++ y) :
    m = n ∧ x = y := by
  have blank : ∀ k, ∀ c ∈ List.replicate k ' ', (c == ' ') = true := by
    intro k c member
    rw [List.eq_of_mem_replicate member]
    rfl
  have apart : ∀ c : Char, c.isDigit = true → (c == ' ') = false := by
    intro c digit
    apply beq_eq_false_iff_ne.2
    rintro rfl
    exact absurd digit (by decide)
  rw [toList_spacePadded, toList_spacePadded, List.append_assoc, List.append_assoc] at same
  have numbers := (run_append_inj (blank _) (blank _) (ends_digits_append apart m x)
    (ends_digits_append apart n y) same).2
  exact digits_append_inj ends ends' numbers

theorem length_padLeft_digits {places n : Nat} (positive : 0 < places) (small : n < 10 ^ places) :
    (padLeft '0' places (digits n)).length = places := by
  have short : (digits n).length ≤ places :=
    (Nat.length_toDigits_le_iff (by decide) positive).2 small
  rw [padLeft, List.length_append, List.length_replicate]
  omega

theorem ofDigitChars_padLeft_digits (places n : Nat) :
    Nat.ofDigitChars 10 (padLeft '0' places (digits n)) 0 = n := by
  rw [padLeft, digits, Nat.ofDigitChars_append, Nat.ofDigitChars_replicate_zero, Nat.mul_zero,
    Nat.ofDigitChars_ten_toDigits]

theorem isDigit_of_mem_padLeft {places n : Nat} {c : Char}
    (member : c ∈ padLeft '0' places (digits n)) : c.isDigit = true := by
  rcases List.mem_append.1 member with zero | digit
  · rw [List.eq_of_mem_replicate zero]
    rfl
  · exact isDigit_of_mem_digits digit

-- The zeros at the end are what the fraction leaves out.
theorem padLeft_eq_fraction_append (places n : Nat) :
    ∃ zeros, padLeft '0' places (digits n) =
      (fraction places n).toList ++ List.replicate zeros '0' := by
  let ending := (padLeft '0' places (digits n)).rtakeWhile (· == '0')
  have split : (fraction places n).toList ++ ending = padLeft '0' places (digits n) := by
    rw [fraction, String.toList_ofList]
    exact List.rdropWhile_append_rtakeWhile
  have zeros : ∀ c ∈ ending, c = '0' := by
    intro c member
    have zero := List.mem_rtakeWhile_imp member
    exact eq_of_beq zero
  refine ⟨ending.length, ?_⟩
  rw [← List.eq_replicate_of_mem zeros, split]

theorem isDigit_of_mem_fraction {places n : Nat} {c : Char}
    (member : c ∈ (fraction places n).toList) : c.isDigit = true := by
  obtain ⟨zeros, split⟩ := padLeft_eq_fraction_append places n
  have padded : c ∈ padLeft '0' places (digits n) := by
    rw [split]
    exact List.mem_append_left _ member
  exact isDigit_of_mem_padLeft padded

-- The digits left out would each have multiplied the number by ten.
theorem fraction_value {places n : Nat} (positive : 0 < places) (small : n < 10 ^ places) :
    ∃ zeros, (fraction places n).toList.length + zeros = places ∧
      Nat.ofDigitChars 10 (fraction places n).toList 0 * 10 ^ zeros = n := by
  obtain ⟨zeros, split⟩ := padLeft_eq_fraction_append places n
  have length := congrArg List.length split
  have value := congrArg (Nat.ofDigitChars 10 · 0) split
  rw [length_padLeft_digits positive small, List.length_append, List.length_replicate] at length
  simp only [ofDigitChars_padLeft_digits, Nat.ofDigitChars_append,
    Nat.ofDigitChars_replicate_zero] at value
  refine ⟨zeros, length.symm, ?_⟩
  rw [Nat.mul_comm]
  exact value.symm

theorem getLast?_fraction_ne_zero (places n : Nat) :
    (fraction places n).toList.getLast? ≠ some '0' := by
  intro last
  rw [fraction, String.toList_ofList, List.getLast?_reverse] at last
  have kept := List.head?_dropWhile_not (· == '0') (padLeft '0' places (digits n)).reverse
  rw [last] at kept
  exact absurd kept (by decide)

@[simp]
theorem signedNumeral_natCast (n : Nat) : signedNumeral n = numeral n := rfl

def isSigned (c : Char) : Bool :=
  c == '-' || c.isDigit

theorem isSigned_of_mem_signedNumeral {i : Int} {c : Char} (member : c ∈ (signedNumeral i).toList) :
    isSigned c = true := by
  cases i with
  | ofNat n =>
    have digit := isDigit_of_mem_digits (n := n) (by simpa [signedNumeral] using member)
    simp [isSigned, digit]
  | negSucc n =>
    have split : c = '-' ∨ c ∈ digits (n + 1) := by simpa [signedNumeral] using member
    cases split with
    | inl sign => simp [isSigned, sign]
    | inr digit => simp [isSigned, isDigit_of_mem_digits digit]

theorem signedNumeral_injective {i j : Int}
    (same : (signedNumeral i).toList = (signedNumeral j).toList) : i = j := by
  -- A sign is no digit.
  have unsigned (n : Nat) (text : List Char) : digits n ≠ '-' :: text := by
    intro split
    have digit := isDigit_of_mem_digits (n := n) (split ▸ List.mem_cons_self)
    exact absurd digit (by decide)
  cases i with
  | ofNat m =>
    cases j with
    | ofNat n => exact congrArg Int.ofNat (digits_injective (by simpa [signedNumeral] using same))
    | negSucc n => exact absurd (by simpa [signedNumeral] using same) (unsigned m _)
  | negSucc m =>
    cases j with
    | ofNat n => exact absurd (by simpa [signedNumeral] using same.symm) (unsigned n _)
    | negSucc n =>
      have next : m + 1 = n + 1 := digits_injective (by simpa [signedNumeral] using same)
      rw [Nat.succ.inj next]

end QueryWorkload.Text
