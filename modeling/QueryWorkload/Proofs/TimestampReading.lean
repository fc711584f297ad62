import QueryWorkload.Instant.Timestamp
import QueryWorkload.Proofs.Calendar
import QueryWorkload.Proofs.FixedWidth
import QueryWorkload.Proofs.Instant
import QueryWorkload.Proofs.Span

set_option autoImplicit false

namespace QueryWorkload

open Text Outcome

namespace Timestamp

theorem trimStart_of_visible {c : Char} (visible : isBlank c = false) (text : List Char) :
    trimStart (c :: text) = c :: text := by
  simp [trimStart, visible]

theorem trimStart_decimal {run : List Char} {n : Nat} (number : Decimal run n) (text : List Char) :
    trimStart (run ++ text) = run ++ text := by
  obtain ⟨c, rest, rfl, digit⟩ := number.exists_digit
  exact trimStart_of_visible (isBlank_eq_false_of_isDigit digit) _

-- The digits end where no more are taken, or where the text goes on with something else.
theorem number_decimal {most n : Nat} {run text : List Char} (decimal : Decimal run n)
    (fits : run.length ≤ most) (ends : run.length = most ∨ Ends Char.isDigit text) :
    number most (run ++ text) = some (n, text) := by
  have after : Ends Char.isDigit (text.take (most - run.length)) := by
    rcases ends with full | ends
    · simp [Ends, full]
    · intro c head
      rw [List.head?_take] at head
      split at head
      · cases head
      · exact ends c head
  have taken : ((run ++ text).take most).takeWhile Char.isDigit = run := by
    rw [List.take_append, List.take_of_length_le fits]
    exact takeWhile_run decimal.isDigit after
  have value : valueOf run = n := by
    rw [valueOf, foldl_eq_ofDigitChars, decimal.value]
  simp [number, taken, decimal.ne_nil, value]

theorem longNumber_decimal {n : Nat} {run text : List Char} (decimal : Decimal run n)
    (small : n < signedLimit) (ends : Ends Char.isDigit text) :
    longNumber (run ++ text) = some (n, text) := by
  have fits : run.length ≤ (run ++ text).length := by simp
  have read := number_decimal decimal fits (.inr ends)
  rw [longNumber, read, Option.filter_some, if_pos (decide_eq_true small)]

theorem field_fixed {low high n : Nat} {run : List Char} (fixed : Fixed 2 run n) (least : low ≤ n)
    (most : n ≤ high) (text : List Char) : field low high (run ++ text) = some (n, text) := by
  have read : number 2 (run ++ text) = some (n, text) :=
    number_decimal fixed.decimal fixed.length_eq.le (.inl fixed.length_eq)
  simp [field, trimStart_decimal fixed.decimal, read, least, most]

theorem mark_self {c : Char} (visible : isBlank c = false) (text : List Char) :
    mark c (c :: text) = some text := by
  simp [mark, trimStart_of_visible visible]

theorem year_fixed {n : Nat} {run : List Char} (fixed : Fixed 4 run n) (text : List Char) :
    year (run ++ text) = some ((n : Int), text) := by
  have read : number 4 (run ++ text) = some (n, text) :=
    number_decimal fixed.decimal fixed.length_eq.le (.inl fixed.length_eq)
  obtain ⟨c, rest, rfl, digit⟩ := fixed.decimal.exists_digit
  have visible := trimStart_decimal fixed.decimal text
  rw [List.cons_append] at visible read ⊢
  rw [year, visible]
  split
  case h_3 => simp [read]
  all_goals
    next same =>
      rw [(List.cons.inj same).1] at digit
      exact absurd digit (by decide)

theorem year_minus {n : Nat} {text rest : List Char} (read : longNumber text = some (n, rest)) :
    year ('-' :: text) = some (-(n : Int), rest) := by
  simp only [year, trimStart_of_visible (show isBlank '-' = false by rfl), read, Option.map_some]

theorem year_plus {n : Nat} {text rest : List Char} (read : longNumber text = some (n, rest)) :
    year ('+' :: text) = some ((n : Int), rest) := by
  simp only [year, trimStart_of_visible (show isBlank '+' = false by rfl), read, Option.map_some]

theorem year_yearText {y : Int} (small : y.natAbs < signedLimit) {text : List Char}
    (ends : Ends Char.isDigit text) : year ((Date.yearText y).toList ++ text) = some (y, text) := by
  have read := longNumber_decimal (decimal_padLeft 4 y.natAbs) small ends
  unfold Date.yearText
  split_ifs with plain negative
  · have fixed : Fixed 4 (padLeft '0' 4 (digits y.toNat)) y.toNat :=
      fixed_padLeft (by decide) (by omega)
    have whole := year_fixed fixed text
    rw [Int.toNat_of_nonneg plain.1] at whole
    simpa [zeroPadded] using whole
  · have signed := year_minus read
    rw [show -(y.natAbs : Int) = y by omega] at signed
    simpa [zeroPadded] using signed
  · have signed := year_plus read
    rw [show (y.natAbs : Int) = y by omega] at signed
    simpa [zeroPadded] using signed

theorem fraction_fixed {k n : Nat} {run text : List Char} (fixed : Fixed k run n) (short : k ≤ 9)
    (ends : Ends Char.isDigit text) :
    fraction ('.' :: (run ++ text)) = some (n * 10 ^ (9 - k), text) := by
  have places := takeWhile_run fixed.decimal.isDigit ends
  have rest := dropWhile_run fixed.decimal.isDigit ends
  have filled : (run ++ List.replicate 9 '0').take 9 = run ++ List.replicate (9 - k) '0' := by
    have whole : run.length ≤ 9 := fixed.length_eq.trans_le short
    rw [List.take_append, List.take_of_length_le whole, fixed.length_eq, List.take_replicate,
      Nat.min_eq_left (Nat.sub_le 9 k)]
  have value : valueOf (run ++ List.replicate (9 - k) '0') = n * 10 ^ (9 - k) := by
    rw [valueOf, foldl_eq_ofDigitChars, Nat.ofDigitChars_append, Nat.ofDigitChars_replicate_zero,
      fixed.decimal.value, Nat.mul_comm]
  simp only [fraction, places, rest, if_neg fixed.decimal.ne_nil, filled, value]

theorem fraction_zeroPadded {k n nanos : Nat} (positive : 0 < k) (short : k ≤ 9) (small : n < 10 ^ k)
    (cut : n * 10 ^ (9 - k) = nanos) (rest : List Char) :
    fraction (("." ++ zeroPadded k n).toList ++ 'Z' :: rest) = some (nanos, 'Z' :: rest) := by
  have ends : Ends Char.isDigit ('Z' :: rest) := ends_cons.2 rfl
  have read := fraction_fixed (fixed_padLeft positive small) short ends
  rw [cut] at read
  simpa [zeroPadded] using read

-- Three, six and nine digits give back the nanoseconds, as the digits left out are zeros.
theorem fraction_fractionText {t : Instant} (plain : t.nanos < Instant.second) (rest : List Char) :
    fraction (t.fractionText.toList ++ 'Z' :: rest) = some (t.nanos, 'Z' :: rest) := by
  have within : t.nanos % Instant.second = t.nanos := Nat.mod_eq_of_lt plain
  simp only [Instant.second] at plain
  simp only [Instant.fractionText, within]
  split_ifs with whole millis micros
  · simp [whole, fraction]
  · exact fraction_zeroPadded (by decide) (by decide) (by omega) (by omega) rest
  · exact fraction_zeroPadded (by decide) (by decide) (by omega) (by omega) rest
  · exact fraction_zeroPadded (by decide) (by decide) (by omega) (by omega) rest

-- A date and a time of day in digits, with what is read as a year and as a fraction.
theorem read_numbers {text : String} {d : Date} {hour minute sec nanos : Nat}
    {yyyy mm dd hh mi ss places : List Char}
    (split : text.toList = yyyy ++ '-' :: (mm ++ '-' :: (dd ++ 'T' :: (hh ++ ':' ::
      (mi ++ ':' :: (ss ++ (places ++ ['Z'])))))))
    (signed : ∀ rest, year (yyyy ++ '-' :: rest) = some (d.year, '-' :: rest))
    (months : Fixed 2 mm d.month) (month : 1 ≤ d.month ∧ d.month ≤ 12)
    (days : Fixed 2 dd d.day) (day : 1 ≤ d.day ∧ d.day ≤ 31)
    (hours : Fixed 2 hh hour) (minutes : Fixed 2 mi minute) (seconds : Fixed 2 ss sec)
    (clock : hour ≤ 23 ∧ minute ≤ 59 ∧ sec ≤ 60)
    (part : fraction (places ++ ['Z']) = some (nanos, ['Z'])) :
    read text = instant? d hour minute sec nanos 0 := by
  have dash := mark_self (show isBlank '-' = false by rfl)
  have colon := mark_self (show isBlank ':' = false by rfl)
  have separated (rest : List Char) : separator ('T' :: rest) = some rest := rfl
  have ahead : offset ['Z'] = some (0, []) := rfl
  rw [read, split]
  refine bind_of_eq_some (signed _) ?_
  refine bind_of_eq_some (dash _) (bind_of_eq_some (field_fixed months month.1 month.2 _) ?_)
  refine bind_of_eq_some (dash _) (bind_of_eq_some (field_fixed days day.1 day.2 _) ?_)
  refine bind_of_eq_some (separated _) (bind_of_eq_some (field_fixed hours hour.zero_le clock.1 _) ?_)
  refine bind_of_eq_some (colon _)
    (bind_of_eq_some (field_fixed minutes minute.zero_le clock.2.1 _) ?_)
  refine bind_of_eq_some (colon _) (bind_of_eq_some (field_fixed seconds sec.zero_le clock.2.2 _) ?_)
  exact bind_of_eq_some part (bind_of_eq_some ahead rfl)

-- The years of the calendar have at most six digits.
theorem natAbs_year_lt {t : Instant} (inside : t.inCalendar = true) :
    t.date.year.natAbs < signedLimit := by
  have days := Date.toDays_ofDays (t.seconds / 86400)
  have bounds := Date.dayOfYear_bounds (Date.isValid_ofDays (t.seconds / 86400))
  rw [Date.toDays_eq] at days
  rw [Instant.inCalendar_iff] at inside
  simp only [Date.yearStart, Date.marchYear] at days bounds
  simp only [signedLimit, Instant.date]
  split at days <;> omega

theorem instant?_clock {t : Instant} (inside : t.inCalendar = true) :
    instant? t.date (t.clock / 3600) (t.clock % 3600 / 60) (t.clock % 60) t.nanos 0 = some t := by
  have valid : t.date.isValid = true := Date.isValid_ofDays _
  have days : t.date.toDays = t.seconds / 86400 := Date.toDays_ofDays _
  have midnight : Instant.inCalendar ⟨t.seconds / 86400 * 86400, 0⟩ = true := by
    rw [Instant.inCalendar_iff] at inside ⊢
    simp only
    omega
  have notLeap : t.clock % 60 ≠ 60 := by omega
  have seconds : t.seconds / 86400 * 86400 +
      ((t.clock / 3600 * 3600 + t.clock % 3600 / 60 * 60 + t.clock % 60 : Nat) : Int) - 0 = t.seconds := by
    simp only [Instant.clock]
    omega
  simp only [instant?, days, valid, midnight, if_neg notLeap, seconds, inside]
  rfl

theorem read_toText {t : Instant} (plain : t.nanos < Instant.second) (inside : t.inCalendar = true) :
    read t.toText = some t := by
  have valid : t.date.isValid = true := Date.isValid_ofDays _
  obtain ⟨january, december, first, last⟩ := (Date.isValid_iff t.date).1 valid
  have month := (Date.daysInMonth_bounds t.date.year t.date.month).2
  have clock : t.clock < 86400 := by
    simp only [Instant.clock]
    omega
  have seconds : t.clock % 60 + t.nanos / Instant.second = t.clock % 60 := by
    rw [Nat.div_eq_of_lt plain, Nat.add_zero]
  have times : t.clock / 3600 ≤ 23 ∧ t.clock % 3600 / 60 ≤ 59 ∧ t.clock % 60 ≤ 60 := by omega
  have twoDigits {n : Nat} (small : n < 100) : Fixed 2 (padLeft '0' 2 (digits n)) n :=
    fixed_padLeft (by decide) small
  rw [read_numbers ?_ (fun rest => year_yearText (natAbs_year_lt inside) (ends_cons.2 rfl))
    (twoDigits (by omega)) ⟨january, december⟩ (twoDigits (by omega)) ⟨first, Nat.le_trans last month⟩
    (twoDigits (by omega)) (twoDigits (by omega)) (twoDigits (by omega)) times
    (fraction_fractionText plain []), instant?_clock inside]
  simp [Instant.toText, Instant.dateTime, Date.text, Instant.timeText, zeroPadded, seconds]

end Timestamp

end QueryWorkload
