import QueryWorkload.Json.Reader
import QueryWorkload.Proofs.FixedWidth
import QueryWorkload.Proofs.JsonText

set_option autoImplicit false

namespace QueryWorkload.Json

open Text

section Escape

theorem hexValue_control {n : Nat} (small : n < 32) :
    hexValue '0' '0' (hexDigit (n / 16)) (hexDigit (n % 16)) = some n := by
  revert n
  decide

theorem units_shortEscape {e c : Char} (named : shortEscape? e = some c) (text : List Char) :
    units ('\\' :: e :: text) = (units text).map fun r => (c.toNat :: r.1, r.2) := by
  have other : e ≠ 'u' := by
    rintro rfl
    cases named
  cases read : units text <;> simp [units, other, named, read]

theorem units_bare {c : Char} (quote : c ≠ '"') (backslash : c ≠ '\\') (shown : ¬ c.toNat < 32)
    (text : List Char) :
    units (c :: text) = (units text).map fun r => (c.toNat :: r.1, r.2) := by
  cases read : units text <;> simp [units, backslash, shown, read]

-- Every character is read back as its code, whichever way it is escaped.
theorem units_escapeChar (c : Char) (text : List Char) :
    units (escapeChar c ++ text) = (units text).map fun r => (c.toNat :: r.1, r.2) := by
  fun_cases escapeChar c with
  | case8 _ _ _ _ _ _ _ control =>
    have code := hexValue_control control
    cases read : units text <;> simp [units, code, read]
  | case9 quote backslash _ _ _ _ _ control => exact units_bare quote backslash control text
  | case1 | case2 | case3 | case4 | case5 | case6 | case7 =>
    subst_vars
    exact units_shortEscape rfl text

theorem units_escape (s rest : List Char) :
    units (escape s ++ '"' :: rest) = some (s.map Char.toNat, rest) := by
  induction s with
  | nil => simp [escape, units]
  | cons c s ih =>
    have first := units_escapeChar c (escape s ++ '"' :: rest)
    rw [ih] at first
    simpa [escape] using first

theorem ofUnits_toNat (s : List Char) : ofUnits (s.map Char.toNat) = some s := by
  induction s with
  | nil => rfl
  | cons c s ih =>
    have valid : c.toNat < 0xD800 ∨ 0xDFFF < c.toNat ∧ c.toNat < 0x110000 := c.valid
    have high : ¬ (0xD800 ≤ c.toNat ∧ c.toNat < 0xDC00) := by omega
    have low : ¬ (0xDC00 ≤ c.toNat ∧ c.toNat < 0xE000) := by omega
    rw [List.map_cons, ofUnits.eq_def]
    simp [high, low, ih]

theorem string_escape (s : String) (rest : List Char) :
    string (escape s.toList ++ '"' :: rest) = some (s, rest) := by
  simp [string, units_escape, ofUnits_toNat]

end Escape

section Numbers

def goesOn (c : Char) : Bool :=
  c.isDigit || c == '.' || c == 'e' || c == 'E'

theorem ends_isDigit {text : List Char} (ends : Ends goesOn text) : Ends Char.isDigit text := by
  intro c head
  have apart := ends c head
  simp only [goesOn, Bool.or_eq_false_iff] at apart
  exact apart.1.1.1

theorem fraction_of_ends {text : List Char} (ends : Ends goesOn text) :
    fraction text = some ([], text) := by
  fun_cases fraction text with
  | case1 rest => exact absurd (ends '.' rfl) (by decide)
  | case2 => rfl

theorem exponent_of_ends {text : List Char} (ends : Ends goesOn text) :
    exponent text = some ([], text) := by
  cases text with
  | nil => rfl
  | cons e rest =>
    have apart := ends_cons.1 ends
    simp only [goesOn, Bool.or_eq_false_iff, beq_eq_false_iff_ne] at apart
    have other : ¬ (e = 'e' ∨ e = 'E') := by simp [apart]
    simp only [exponent, if_neg other]

-- A zero in front would make the numeral longer than the number needs.
theorem eq_nil_of_leading_zero {n : Nat} {rest : List Char} (split : digits n = '0' :: rest) :
    rest = [] := by
  by_contra more
  have numeric : ∀ c ∈ rest, c.isDigit = true := fun c member =>
    isDigit_of_mem_digits (n := n) (split ▸ List.mem_cons_of_mem '0' member)
  have value : Nat.ofDigitChars 10 (digits n) 0 = n := Nat.ofDigitChars_ten_toDigits
  rw [split, ofDigitChars_cons] at value
  have small := ofDigitChars_lt numeric
  have short : (digits n).length ≤ rest.length :=
    (Nat.length_toDigits_le_iff (by decide) (List.length_pos_iff.2 more)).2 (by simp_all)
  rw [split, List.length_cons] at short
  omega

theorem whole_digits (n : Nat) {text : List Char} (ends : Ends Char.isDigit text) :
    whole (digits n ++ text) = some (digits n, text) := by
  obtain ⟨c, rest, split, digit⟩ := exists_digits_eq_cons n
  by_cases zero : c = '0'
  · subst zero
    rw [split, eq_nil_of_leading_zero split]
    rfl
  · have run := takeWhile_run (fun _ => isDigit_of_mem_digits (n := n)) ends
    have after := dropWhile_run (fun _ => isDigit_of_mem_digits (n := n)) ends
    have begun : digits n ≠ [] := by simp [split]
    have other : whole (digits n ++ text) = someDigits (digits n ++ text) := by
      rw [split, List.cons_append, whole]
      intro more same
      exact zero (List.cons.inj same).1
    rw [other, someDigits, run, after, if_neg begun]

theorem numberOf_digits (negative : Bool) (n : Nat) (written : negative = true → n ≠ 0) :
    numberOf negative (digits n) [] = .int (if negative then -(n : Int) else n) := by
  have value : (digits n).foldl (fun n c => n * 10 + (c.toNat - '0'.toNat)) 0 = n := by
    rw [foldl_eq_ofDigitChars]
    exact Nat.ofDigitChars_ten_toDigits
  have exact : ¬ (negative = true ∧ n = 0) := fun h => written h.1 h.2
  simp only [numberOf, value, exact, not_false_eq_true, and_self, if_true]

theorem number_digits (n : Nat) {text : List Char} (ends : Ends goesOn text) :
    number (digits n ++ text) = some (.int n, text) := by
  obtain ⟨c, rest, split, digit⟩ := exists_digits_eq_cons n
  have unsigned : c ≠ '-' := by
    rintro rfl
    exact absurd digit (by decide)
  have run := whole_digits n (ends_isDigit ends)
  have value := numberOf_digits false n nofun
  rw [split, List.cons_append] at run ⊢
  rw [split] at value
  simpa [number, unsigned, run, fraction_of_ends ends, exponent_of_ends ends] using value

theorem number_minus_digits {n : Nat} (other : n ≠ 0) {text : List Char} (ends : Ends goesOn text) :
    number ('-' :: (digits n ++ text)) = some (.int (-n), text) := by
  have value := numberOf_digits true n fun _ => other
  simpa [number, whole_digits n (ends_isDigit ends), fraction_of_ends ends, exponent_of_ends ends]
    using value

theorem number_signedNumeral (i : Int) {text : List Char} (ends : Ends goesOn text) :
    number ((signedNumeral i).toList ++ text) = some (.int i, text) := by
  cases i with
  | ofNat n => simpa [signedNumeral] using number_digits n ends
  | negSucc n =>
    have minus : (signedNumeral (.negSucc n)).toList = '-' :: digits (n + 1) := by
      simp [signedNumeral]
    rw [minus]
    exact number_minus_digits n.succ_ne_zero ends

theorem exists_signedNumeral_eq_cons (i : Int) :
    ∃ c rest, (signedNumeral i).toList = c :: rest ∧ isSigned c = true := by
  cases i with
  | ofNat n =>
    obtain ⟨c, rest, split, digit⟩ := exists_digits_eq_cons n
    exact ⟨c, rest, by simp [signedNumeral, split], by simp [isSigned, digit]⟩
  | negSucc n => exact ⟨'-', digits (n + 1), by simp [signedNumeral], rfl⟩

end Numbers

section Values

theorem ne_of_isSigned {c d : Char} (signed : isSigned c = true) (letter : isSigned d = false) :
    c ≠ d := by
  rintro rfl
  rw [signed] at letter
  cases letter

theorem isSpace_of_isSigned {c : Char} (signed : isSigned c = true) : isSpace c = false := by
  cases space : isSpace c with
  | false => rfl
  | true =>
    simp only [isSpace, Bool.or_eq_true, decide_eq_true_eq] at space
    rcases space with ((rfl | rfl) | rfl) | rfl <;> cases signed

theorem skipSpace_of_shown {c : Char} (shown : isSpace c = false) (text : List Char) :
    skipSpace (c :: text) = c :: text := by
  simp [skipSpace, shown]

theorem value_of_isSigned {c : Char} (signed : isSigned c = true) (fuel : Nat) (text : List Char) :
    value (fuel + 1) (c :: text) = number (c :: text) := by
  have shown := skipSpace_of_shown (isSpace_of_isSigned signed) text
  -- None of the other kinds of values starts with a sign or a digit.
  rw [value, shown]
  split
  case h_7 => rfl
  all_goals
    next same => exact absurd (List.cons.inj same).1 (ne_of_isSigned signed rfl)

-- A value is read from its text, with steps to spare for the rest.
def Reads (v : Json) : Prop :=
  ∀ (fuel : Nat) (rest : List Char), 2 * v.chars.length ≤ fuel → Ends goesOn rest →
    value fuel (v.chars ++ rest) = some (v, rest)

theorem items_itemChars {items : List Json} (begun : items ≠ []) (each : ∀ v ∈ items, Reads v)
    {fuel : Nat} (enough : 2 * (itemChars items).length + 1 ≤ fuel) (rest : List Char) :
    Json.items fuel (itemChars items ++ ']' :: rest) = some (items, rest) := by
  induction items generalizing fuel with
  | nil => exact absurd rfl begun
  | cons v more ih =>
    obtain ⟨fuel, rfl⟩ := Nat.exists_eq_add_of_lt (Nat.lt_of_lt_of_le (Nat.succ_pos _) enough)
    rw [Nat.zero_add] at enough ⊢
    have reads := each v List.mem_cons_self
    cases more with
    | nil =>
      simp only [itemChars] at enough ⊢
      have first := reads fuel (']' :: rest) (by omega) (ends_cons.2 rfl)
      simp [Json.items, first, skipSpace, isSpace]
    | cons w more =>
      simp only [itemChars, List.length_append, List.length_cons] at enough
      have first := reads fuel (',' :: (itemChars (w :: more) ++ ']' :: rest)) (by omega)
        (ends_cons.2 rfl)
      have room : 2 * (itemChars (w :: more)).length + 1 ≤ fuel := by omega
      have later := ih (List.cons_ne_nil w more) (fun u member => each u (List.mem_cons_of_mem v member))
        room
      simp [Json.items, itemChars, first, later, skipSpace, isSpace]

theorem members_memberChars {members : List (String × Json)} (begun : members ≠ [])
    (each : ∀ m ∈ members, Reads m.2) {fuel : Nat}
    (enough : 2 * (memberChars members).length + 1 ≤ fuel) (rest : List Char) :
    Json.members fuel (memberChars members ++ '\x7d' :: rest) = some (members, rest) := by
  induction members generalizing fuel with
  | nil => exact absurd rfl begun
  | cons m more ih =>
    obtain ⟨key, v⟩ := m
    obtain ⟨fuel, rfl⟩ := Nat.exists_eq_add_of_lt (Nat.lt_of_lt_of_le (Nat.succ_pos _) enough)
    rw [Nat.zero_add] at enough ⊢
    have reads : Reads v := each (key, v) List.mem_cons_self
    cases more with
    | nil =>
      simp only [memberChars, List.length_append, List.length_cons] at enough
      have first := reads fuel ('\x7d' :: rest) (by omega) (ends_cons.2 rfl)
      simp [Json.members, memberChars, quote, string_escape, first, skipSpace, isSpace]
    | cons w more =>
      simp only [memberChars, List.length_append, List.length_cons] at enough
      have first := reads fuel (',' :: (memberChars (w :: more) ++ '\x7d' :: rest)) (by omega)
        (ends_cons.2 rfl)
      have room : 2 * (memberChars (w :: more)).length + 1 ≤ fuel := by omega
      have later := ih (List.cons_ne_nil w more) (fun u member => each u (List.mem_cons_of_mem _ member))
        room
      simp [Json.members, memberChars, quote, string_escape, first, later, skipSpace, isSpace]

theorem Exact.exists_cons {v : Json} (exact : Exact v) :
    ∃ c text, v.chars = c :: text ∧ isSpace c = false ∧ c ≠ ']' := by
  cases exact with
  | null => exact ⟨'n', _, rfl, rfl, by decide⟩
  | bool b =>
    cases b with
    | false => exact ⟨'f', _, rfl, rfl, by decide⟩
    | true => exact ⟨'t', _, rfl, rfl, by decide⟩
  | int n =>
    obtain ⟨c, rest, split, signed⟩ := exists_signedNumeral_eq_cons n
    exact ⟨c, rest, by simp [chars, split], isSpace_of_isSigned signed, ne_of_isSigned signed rfl⟩
  | str s => exact ⟨'"', _, by rw [chars, quote], rfl, by decide⟩
  | arr each => exact ⟨'[', _, by rw [chars], rfl, by decide⟩
  | obj each => exact ⟨'\x7b', _, by rw [chars], rfl, by decide⟩

theorem exists_itemChars_eq_cons {items : List Json} (begun : items ≠ [])
    (each : ∀ v ∈ items, Exact v) :
    ∃ c text, itemChars items = c :: text ∧ isSpace c = false ∧ c ≠ ']' := by
  obtain ⟨v, more, rfl⟩ := List.exists_cons_of_ne_nil begun
  obtain ⟨c, text, split, shown, other⟩ := (each v List.mem_cons_self).exists_cons
  cases more with
  | nil => exact ⟨c, text, by simp [itemChars, split], shown, other⟩
  | cons w more => exact ⟨c, text ++ ',' :: itemChars (w :: more), by simp [itemChars, split], shown, other⟩

theorem exists_memberChars_eq_cons {members : List (String × Json)} (begun : members ≠ []) :
    ∃ text, memberChars members = '"' :: text := by
  obtain ⟨⟨key, v⟩, more, rfl⟩ := List.exists_cons_of_ne_nil begun
  cases more with
  | nil => exact ⟨_, rfl⟩
  | cons w more => exact ⟨_, rfl⟩

theorem Exact.reads_of_step {v : Json} (exact : Exact v)
    (step : ∀ (fuel : Nat) (rest : List Char), 2 * v.chars.length ≤ fuel + 1 → Ends goesOn rest →
      value (fuel + 1) (v.chars ++ rest) = some (v, rest)) : Reads v := by
  intro fuel rest enough ends
  obtain ⟨c, text, split, _⟩ := exact.exists_cons
  cases fuel with
  | zero => simp [split] at enough
  | succ fuel => exact step fuel rest enough ends

theorem Exact.reads {v : Json} (exact : Exact v) : Reads v := by
  induction exact with
  | null =>
    refine Exact.null.reads_of_step fun fuel rest enough ends => ?_
    simp [value, chars, skipSpace, isSpace]
  | bool b =>
    refine (Exact.bool b).reads_of_step fun fuel rest enough ends => ?_
    cases b <;> simp [value, chars, skipSpace, isSpace]
  | int n =>
    refine (Exact.int n).reads_of_step fun fuel rest enough ends => ?_
    have read := number_signedNumeral n ends
    obtain ⟨c, text, split, signed⟩ := exists_signedNumeral_eq_cons n
    rw [chars, ← read, split, List.cons_append, value_of_isSigned signed]
  | str s =>
    refine (Exact.str s).reads_of_step fun fuel rest enough ends => ?_
    simp [value, chars, quote, skipSpace, isSpace, string_escape]
  | @arr items each ih =>
    refine (Exact.arr each).reads_of_step fun fuel rest enough ends => ?_
    by_cases empty : items = []
    · subst empty
      simp [value, chars, itemChars, skipSpace, isSpace]
    · simp only [chars, List.length_cons, List.length_append] at enough
      have room : 2 * (itemChars items).length + 1 ≤ fuel := by omega
      have list := items_itemChars empty ih room rest
      obtain ⟨c, text, split, shown, other⟩ := exists_itemChars_eq_cons empty each
      rw [split, List.cons_append] at list
      have opened (text : List Char) : skipSpace ('[' :: text) = '[' :: text :=
        skipSpace_of_shown rfl text
      simp [value, chars, split, opened, skipSpace_of_shown shown, other, list]
  | @obj members each ih =>
    refine (Exact.obj each).reads_of_step fun fuel rest enough ends => ?_
    by_cases empty : members = []
    · subst empty
      simp [value, chars, memberChars, skipSpace, isSpace]
    · simp only [chars, List.length_cons, List.length_append] at enough
      have room : 2 * (memberChars members).length + 1 ≤ fuel := by omega
      have list := members_memberChars empty ih room rest
      obtain ⟨text, split⟩ := exists_memberChars_eq_cons empty
      rw [split, List.cons_append] at list
      simp [value, chars, split, skipSpace, isSpace, list]

theorem read_text {v : Json} (exact : Exact v) : read v.text = some v := by
  have reads := exact.reads (2 * v.chars.length + 2) [] (by omega) nofun
  rw [List.append_nil] at reads
  simp [read, text, reads, skipSpace]

end Values

end QueryWorkload.Json
