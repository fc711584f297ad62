import Mathlib.Data.Prod.Lex
import Mathlib.Order.Monotone.Basic
import Mathlib.Algebra.Order.Group.Int
import Mathlib.Order.SuccPred.Basic
import Mathlib.Tactic.IntervalCases
import Mathlib.Tactic.SplitIfs
import QueryWorkload.Calendar

set_option autoImplicit false

namespace QueryWorkload.Date

theorem isLeapYear_iff (y : Int) :
    isLeapYear y = true ↔ y % 4 = 0 ∧ (y % 100 ≠ 0 ∨ y % 400 = 0) := by
  simp [isLeapYear]

theorem isValid_iff (d : Date) :
    d.isValid = true ↔
      1 ≤ d.month ∧ d.month ≤ 12 ∧ 1 ≤ d.day ∧ d.day ≤ daysInMonth d.year d.month := by
  simp [isValid, and_assoc]

theorem daysInMonth_bounds (y : Int) (m : Nat) : 28 ≤ daysInMonth y m ∧ daysInMonth y m ≤ 31 := by
  unfold daysInMonth
  split_ifs <;> omega

def next (d : Date) : Date :=
  if d.day < daysInMonth d.year d.month then { d with day := d.day + 1 }
  else if d.month < 12 then ⟨d.year, d.month + 1, 1⟩
  else ⟨d.year + 1, 1, 1⟩

theorem isValid_next {d : Date} (valid : d.isValid = true) : d.next.isValid = true := by
  rw [isValid_iff] at valid ⊢
  unfold next
  split_ifs with within before
  · simp only
    omega
  · have bounds := daysInMonth_bounds d.year (d.month + 1)
    simp only
    omega
  · have bounds := daysInMonth_bounds (d.year + 1) 1
    simp only
    omega

-- Years that start in March, so that a leap day is the last day of its year.
def marchYear (d : Date) : Int :=
  if d.month ≤ 2 then d.year - 1 else d.year

def fromMarch (d : Date) : Int :=
  if d.month ≤ 2 then d.month + 9 else d.month - 3

def dayOfYear (d : Date) : Int :=
  (153 * d.fromMarch + 2) / 5 + d.day - 1

def yearStart (y : Int) : Int :=
  365 * y + y / 4 - y / 100 + y / 400

theorem yearStart_succ (y : Int) :
    yearStart (y + 1) = yearStart y + if isLeapYear (y + 1) then 366 else 365 := by
  simp only [yearStart, isLeapYear_iff]
  split <;> omega

theorem yearStart_era (era y : Int) : yearStart (era * 400 + y) = era * 146097 + yearStart y := by
  simp only [yearStart]
  omega

theorem toDays_eq (d : Date) : d.toDays = yearStart d.marchYear + d.dayOfYear - 719468 := by
  have split := yearStart_era (d.marchYear / 400) (d.marchYear % 400)
  have year : d.marchYear / 400 * 400 + d.marchYear % 400 = d.marchYear := Int.ediv_mul_add_emod ..
  have small : yearStart (d.marchYear % 400) =
      d.marchYear % 400 * 365 + d.marchYear % 400 / 4 - d.marchYear % 400 / 100 := by
    simp only [yearStart]
    omega
  rw [year, small] at split
  rw [split]
  simp only [toDays, marchYear, dayOfYear, fromMarch]
  omega

theorem toDays_next {d : Date} (valid : d.isValid = true) : d.next.toDays = d.toDays + 1 := by
  obtain ⟨year, month, day⟩ := d
  rw [isValid_iff] at valid
  obtain ⟨first, last, _, within⟩ := valid
  simp only at first last within
  rw [toDays_eq, toDays_eq]
  unfold next
  split_ifs with inside before
  · simp only [marchYear, fromMarch, dayOfYear]
    omega
  · -- The day is the last one of its month.
    have leap := yearStart_succ (year - 1)
    rw [Int.sub_add_cancel] at leap
    simp only [daysInMonth] at *
    simp only [marchYear, fromMarch, dayOfYear]
    interval_cases month <;> grind
  · simp only [daysInMonth] at *
    have december : month = 12 := by omega
    subst december
    simp [marchYear, fromMarch, dayOfYear] at *
    omega

-- A year of an era, by its century, its four years in there, and its place among them. Day 365 is a leap
-- day, and it ends the years 3, 7, …, 95 of a century, and the year 399.
theorem yearOfEra_eq {century four year day e : Int} (centuries : 0 ≤ century ∧ century ≤ 3)
    (fours : 0 ≤ four ∧ four ≤ 24) (years : 0 ≤ year ∧ year ≤ 3) (days : 0 ≤ day ∧ day ≤ 365)
    (leap : day = 365 → year = 3 ∧ (four = 24 → century = 3))
    (split : e = 36524 * century + 1461 * four + 365 * year + day) :
    (e - e / 1460 + e / 36524 - e / 146096) / 365 = 100 * century + 4 * four + year := by
  by_cases last : e = 146096
  · subst last
    omega
  · have centuryOf : e / 36524 = century := by omega
    have within : e / 146096 = 0 := by omega
    by_cases leapDay : day = 365
    · have fourOf : e / 1460 = 25 * century + four + 1 := by omega
      omega
    · -- Every four years have a day more than 1460.
      have fourOf : e / 1460 = 25 * century + four ∨
          e / 1460 = 25 * century + four + 1 ∧ 1 ≤ day := by omega
      omega

def ofDayOfYear (y r : Int) : Date :=
  let fromMarch := (5 * r + 2) / 153
  let month := if fromMarch < 10 then fromMarch + 3 else fromMarch - 9
  { year := y + (if month ≤ 2 then 1 else 0)
    month := month.toNat
    day := (r - (153 * fromMarch + 2) / 5 + 1).toNat }

-- The year of an era is found from its days, and the day of the year with it.
theorem yearOfEra_yearStart {y r : Int} (years : 0 ≤ y ∧ y < 400) (days : 0 ≤ r ∧ r ≤ 365)
    (leap : r = 365 → y % 4 = 3 ∧ (y % 100 = 99 → y = 399)) :
    let e := yearStart y + r
    (e - e / 1460 + e / 36524 - e / 146096) / 365 = y ∧
      e - (365 * y + y / 4 - y / 100) = r ∧ 0 ≤ e ∧ e < 146097 := by
  have whole : 100 * (y / 100) + 4 * (y % 100 / 4) + y % 4 = y := by omega
  have centuries : 0 ≤ y / 100 ∧ y / 100 ≤ 3 := by omega
  have fours : 0 ≤ y % 100 / 4 ∧ y % 100 / 4 ≤ 24 := by omega
  have ones : 0 ≤ y % 4 ∧ y % 4 ≤ 3 := by omega
  have start : yearStart y = 36524 * (y / 100) + 1461 * (y % 100 / 4) + 365 * (y % 4) := by
    simp only [yearStart]
    omega
  have leapDay : r = 365 → y % 4 = 3 ∧ (y % 100 / 4 = 24 → y / 100 = 3) := by
    intro long
    obtain ⟨year, century⟩ := leap long
    refine ⟨year, fun last => ?_⟩
    have ends : y % 100 = 99 := by omega
    rw [century ends]
    rfl
  refine ⟨?_, ?_, ?_⟩
  · rw [yearOfEra_eq centuries fours ones days leapDay (congrArg (· + r) start), whole]
  · simp only [yearStart]
    omega
  · clear leapDay leap
    omega

theorem ofDays_yearStart_add {y r : Int} (days : 0 ≤ r ∧ r ≤ 365)
    (leap : r = 365 → isLeapYear (y + 1) = true) :
    ofDays (yearStart y + r - 719468) = ofDayOfYear y r := by
  have split := yearStart_era (y / 400) (y % 400)
  rw [Int.ediv_mul_add_emod] at split
  rw [isLeapYear_iff] at leap
  obtain ⟨yearOfEra, dayOfYear, inside⟩ :=
    yearOfEra_yearStart (y := y % 400) (by omega) days (by omega)
  have era : (yearStart y + r - 719468 + 719468) / 146097 = y / 400 := by omega
  have dayOfEra : (yearStart y + r - 719468 + 719468) % 146097 = yearStart (y % 400) + r := by omega
  have years : y % 400 + y / 400 * 400 = y := Int.emod_add_ediv_mul ..
  simp only [ofDays, era, dayOfEra, yearOfEra, dayOfYear, years, ofDayOfYear]

theorem dayOfYear_bounds {d : Date} (valid : d.isValid = true) :
    (0 ≤ d.dayOfYear ∧ d.dayOfYear ≤ 365) ∧
      (d.dayOfYear = 365 → isLeapYear (d.marchYear + 1) = true) := by
  obtain ⟨y, month, day⟩ := d
  rw [isValid_iff] at valid
  obtain ⟨first, last, low, within⟩ := valid
  simp only [daysInMonth] at first last low within
  simp only [dayOfYear, fromMarch, marchYear]
  interval_cases month <;> grind

theorem ofDayOfYear_dayOfYear {d : Date} (valid : d.isValid = true) :
    ofDayOfYear d.marchYear d.dayOfYear = d := by
  obtain ⟨y, month, day⟩ := d
  rw [isValid_iff] at valid
  obtain ⟨first, last, low, within⟩ := valid
  simp only [daysInMonth] at first last low within
  have fromMarchOf : (5 * dayOfYear ⟨y, month, day⟩ + 2) / 153 = fromMarch ⟨y, month, day⟩ := by
    simp only [dayOfYear, fromMarch]
    interval_cases month <;> grind
  simp only [ofDayOfYear, fromMarchOf]
  simp only [dayOfYear, fromMarch, marchYear]
  interval_cases month <;> grind

theorem ofDays_toDays {d : Date} (valid : d.isValid = true) : ofDays d.toDays = d := by
  obtain ⟨days, leap⟩ := dayOfYear_bounds valid
  rw [toDays_eq, ofDays_yearStart_add days leap, ofDayOfYear_dayOfYear valid]

-- Every day has a date: it is reached day by day from the first of March of an era.
theorem exists_date (n : Int) : ∃ d : Date, d.isValid = true ∧ d.toDays = n := by
  have reached (era : Int) (k : Nat) :
      ∃ d : Date, d.isValid = true ∧ d.toDays = era * 146097 - 719468 + k := by
    induction k with
    | zero =>
      have start := yearStart_era era 0
      rw [Int.add_zero] at start
      refine ⟨⟨era * 400, 3, 1⟩, rfl, ?_⟩
      rw [toDays_eq]
      simp [marchYear, dayOfYear, fromMarch, start]
      rfl
    | succ k ih =>
      obtain ⟨d, valid, counted⟩ := ih
      refine ⟨d.next, isValid_next valid, ?_⟩
      rw [toDays_next valid, counted]
      omega
  have later : 0 ≤ (n + 719468) % 146097 := Int.emod_nonneg _ (by decide)
  obtain ⟨d, valid, counted⟩ := reached ((n + 719468) / 146097) ((n + 719468) % 146097).toNat
  refine ⟨d, valid, ?_⟩
  omega

theorem isValid_ofDays (n : Int) : (ofDays n).isValid = true := by
  obtain ⟨d, valid, rfl⟩ := exists_date n
  rw [ofDays_toDays valid]
  exact valid

theorem toDays_ofDays (n : Int) : (ofDays n).toDays = n := by
  obtain ⟨d, valid, rfl⟩ := exists_date n
  rw [ofDays_toDays valid]

theorem ofDays_succ (n : Int) : ofDays (n + 1) = (ofDays n).next := by
  have valid := isValid_ofDays n
  have counted := toDays_next valid
  rw [toDays_ofDays] at counted
  rw [← counted, ofDays_toDays (isValid_next valid)]

-- The calendar: 1970-01-01 is day 0, and days are counted on from there and back.
inductive Counted : Int → Date → Prop where
  | epoch : Counted 0 ⟨1970, 1, 1⟩
  | after {n : Int} {d : Date} (day : Counted n d) : Counted (n + 1) d.next
  | before {n : Int} {d : Date} (valid : d.isValid = true) (following : Counted (n + 1) d.next) :
    Counted n d

theorem Counted.eq_ofDays {n : Int} {d : Date} (day : Counted n d) : d = ofDays n := by
  induction day with
  | epoch => rfl
  | after day ih => rw [ofDays_succ, ← ih]
  | before valid following ih =>
    have counted := toDays_next valid
    rw [ih, toDays_ofDays] at counted
    rw [(Int.add_left_inj 1).1 counted, ofDays_toDays valid]

theorem counted_ofDays (n : Int) : Counted n (ofDays n) := by
  induction n with
  | zero => exact .epoch
  | succ n ih =>
    rw [ofDays_succ]
    exact .after ih
  | pred n ih =>
    have following := ofDays_succ (-(n : Int) - 1)
    rw [Int.sub_add_cancel] at following
    apply Counted.before (isValid_ofDays _)
    rw [Int.sub_add_cancel, ← following]
    exact ih

def key (d : Date) : Int ×ₗ Nat ×ₗ Nat :=
  toLex (d.year, toLex (d.month, d.day))

theorem key_lt_key_next (d : Date) : d.key < d.next.key := by
  unfold next
  split_ifs <;> simp [key, Prod.Lex.toLex_lt_toLex]

theorem key_ofDays_lt_iff {m n : Int} : (ofDays m).key < (ofDays n).key ↔ m < n := by
  have increasing : StrictMono fun n => (ofDays n).key := by
    apply strictMono_int_of_lt_succ
    intro n
    rw [ofDays_succ]
    exact key_lt_key_next _
  exact increasing.lt_iff_lt

end QueryWorkload.Date
