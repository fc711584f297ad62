import Mathlib.Data.String.Basic
import QueryWorkload.Proofs.Calendar
import QueryWorkload.Proofs.FixedWidth
import QueryWorkload.Proofs.TagFilter
import QueryWorkload.Sql.Statement

set_option autoImplicit false

namespace QueryWorkload

open Text

theorem Date.Counted.lt_iff {m n : Int} {a b : Date} (left : Counted m a) (right : Counted n b) :
    a.key < b.key ↔ m < n := by
  rw [left.eq_ofDays, right.eq_ofDays]
  exact key_ofDays_lt_iff

theorem Date.Counted.eq_iff {m n : Int} {a b : Date} (left : Counted m a) (right : Counted n b) :
    a = b ↔ m = n := by
  constructor
  · intro same
    rw [← toDays_ofDays m, ← left.eq_ofDays, same, right.eq_ofDays, toDays_ofDays]
  · intro same
    rw [left.eq_ofDays, right.eq_ofDays, same]

-- Six numbers for a date and a time of day, a leap second being second 60.
structure Civil where
  year : Nat
  month : Nat
  day : Nat
  hour : Nat
  minute : Nat
  second : Nat

namespace Civil

def date (c : Civil) : Date :=
  ⟨c.year, c.month, c.day⟩

def fields (c : Civil) : List Nat :=
  [c.year, c.month, c.day] ++ [c.hour, c.minute, c.second]

def Spells (text : List Char) (c : Civil) : Prop :=
  ∃ yyyy mm dd hh mi ss,
    text = yyyy ++ '-' :: (mm ++ '-' :: (dd ++ ' ' :: (hh ++ ':' :: (mi ++ ':' :: ss)))) ∧
    Fixed 4 yyyy c.year ∧ Fixed 2 mm c.month ∧ Fixed 2 dd c.day ∧ Fixed 2 hh c.hour ∧
    Fixed 2 mi c.minute ∧ Fixed 2 ss c.second

theorem Spells.quote_not_mem {text : List Char} {c : Civil} (spells : Spells text c) :
    '\'' ∉ text := by
  have numeric {width n : Nat} {run : List Char} (field : Fixed width run n) : '\'' ∉ run :=
    fun member => absurd (field.decimal.isDigit _ member) (by decide)
  obtain ⟨_, _, _, _, _, _, rfl, year, month, day, hour, minute, second⟩ := spells
  simp [numeric year, numeric month, numeric day, numeric hour, numeric minute, numeric second]

inductive Clock : Civil → Nat → Nat → Prop where
  | second {c : Civil} (hour : c.hour < 24) (minute : c.minute < 60) (second : c.second < 60) :
    Clock c (c.hour * 3600 + c.minute * 60 + c.second) 0
  | leapSecond {c : Civil} (hour : c.hour < 24) (minute : c.minute < 60) (second : c.second = 60) :
    Clock c (c.hour * 3600 + c.minute * 60 + 59) Instant.second

-- The numbers are those of an instant in universal time.
def Tells (c : Civil) (t : Instant) : Prop :=
  ∃ n seconds, Date.Counted n c.date ∧ c.Clock seconds t.nanos ∧
    t.seconds = n * 86400 + seconds

theorem Spells.lt_iff {x y : List Char} {a b : Civil} (left : Spells x a) (right : Spells y b) :
    x < y ↔ a.fields < b.fields := by
  obtain ⟨_, _, _, _, _, _, rfl, year, month, day, hour, minute, second⟩ := left
  obtain ⟨_, _, _, _, _, _, rfl, year', month', day', hour', minute', second'⟩ := right
  simp only [year.append_lt_iff year', month.append_lt_iff month', day.append_lt_iff day',
    hour.append_lt_iff hour', minute.append_lt_iff minute', second.lt_iff second',
    List.cons_lt_cons_self, fields, List.cons_append, List.nil_append, List.cons_lt_cons_iff]
  simp

theorem Clock.lt_iff {a b : Civil} {m n x y : Nat} (left : a.Clock m x) (right : b.Clock n y) :
    [a.hour, a.minute, a.second] < [b.hour, b.minute, b.second] ↔ m < n ∨ m = n ∧ x < y := by
  cases left <;> cases right <;> simp [List.cons_lt_cons_iff, Instant.second] <;> omega

theorem Clock.lt {c : Civil} {seconds nanos : Nat} (clock : c.Clock seconds nanos) :
    seconds < 86400 := by
  cases clock <;> omega

theorem Clock.lt_hundred {c : Civil} {seconds nanos : Nat} (clock : c.Clock seconds nanos) :
    c.hour < 100 ∧ c.minute < 100 ∧ c.second < 100 := by
  cases clock <;> omega

theorem fields_lt_iff (a b : Civil) :
    a.fields < b.fields ↔ a.date.key < b.date.key ∨ a.date = b.date ∧
      [a.hour, a.minute, a.second] < [b.hour, b.minute, b.second] := by
  rw [fields, fields, append_lt_append_iff (by rfl)]
  simp [date, Date.key, Prod.Lex.toLex_lt_toLex, List.cons_lt_cons_iff]

theorem Tells.lt_iff {a b : Civil} {t u : Instant} (left : a.Tells t) (right : b.Tells u) :
    a.fields < b.fields ↔ t.before u = true := by
  obtain ⟨m, s, date, clock, split⟩ := left
  obtain ⟨n, s', date', clock', split'⟩ := right
  have short := clock.lt
  have short' := clock'.lt
  rw [fields_lt_iff, date.lt_iff date', date.eq_iff date', clock.lt_iff clock']
  simp only [Instant.before, split, split', Bool.or_eq_true, Bool.and_eq_true, decide_eq_true_eq]
  omega

end Civil

namespace Instant

-- A second of universal time, or a leap second, which ends a minute.
def IsWhole (t : Instant) : Prop :=
  t.nanos = 0 ∨ t.nanos = second ∧ t.seconds % 60 = 59

def InFourDigits (t : Instant) : Prop :=
  ∃ d, Date.Counted (t.seconds / 86400) d ∧ 0 ≤ d.year ∧ d.year ≤ 9999

-- What a text of the form YYYY-MM-DD hh:mm:ss says in universal time.
def Denotes (text : String) (t : Instant) : Prop :=
  ∃ c : Civil, c.Spells text.toList ∧ c.Tells t

theorem Denotes.lt_iff {x y : String} {t u : Instant} (left : Denotes x t) (right : Denotes y u) :
    x < y ↔ t.before u = true := by
  obtain ⟨a, spells, tells⟩ := left
  obtain ⟨b, spells', tells'⟩ := right
  rw [String.lt_iff_toList_lt, spells.lt_iff spells', tells.lt_iff tells']

theorem Denotes.le_iff {x y : String} {t u : Instant} (left : Denotes x t) (right : Denotes y u) :
    x ≤ y ↔ u.before t = false := by
  rw [← not_lt, right.lt_iff left, Bool.not_eq_true]

theorem eq_of_not_before {t u : Instant} (notLess : t.before u = false)
    (notGreater : u.before t = false) : t = u := by
  obtain ⟨seconds, nanos⟩ := t
  obtain ⟨seconds', nanos'⟩ := u
  simp only [before, Bool.or_eq_false_iff, Bool.and_eq_false_iff, decide_eq_false_iff_not] at *
  rw [Instant.mk.injEq]
  omega

theorem Denotes.quote_not_mem {text : String} {t : Instant} (denotes : Denotes text t) :
    '\'' ∉ text.toList := by
  obtain ⟨c, spells, _⟩ := denotes
  exact spells.quote_not_mem

theorem Denotes.iff_eq {text : String} {t : Instant} (denotes : Denotes text t) (u : Instant) :
    Denotes text u ↔ u = t := by
  constructor
  · intro other
    apply eq_of_not_before
    · exact (denotes.le_iff other).1 (le_refl text)
    · exact (other.le_iff denotes).1 (le_refl text)
  · intro same
    rw [same]
    exact denotes

def civil (t : Instant) : Civil :=
  { year := t.date.year.toNat
    month := t.date.month
    day := t.date.day
    hour := t.clock / 3600
    minute := t.clock % 3600 / 60
    second := t.clock % 60 + t.nanos / second }

theorem clock_lt (t : Instant) : t.clock < 86400 := by
  simp only [clock]
  omega

theorem clock_civil {t : Instant} (whole : t.IsWhole) : t.civil.Clock t.clock t.nanos := by
  have short := t.clock_lt
  have hour : t.civil.hour < 24 := by
    simp only [civil]
    omega
  have minute : t.civil.minute < 60 := by
    simp only [civil]
    omega
  rcases whole with plain | ⟨leap, last⟩
  · have second : t.civil.second < 60 := by
      simp only [civil, plain, Nat.zero_div]
      omega
    have split : t.clock = t.civil.hour * 3600 + t.civil.minute * 60 + t.civil.second := by
      simp only [civil, plain, Nat.zero_div]
      omega
    rw [split, plain]
    exact .second hour minute second
  · have ends : t.clock % 60 = 59 := by
      simp only [clock]
      omega
    have second : t.civil.second = 60 := by
      simp [civil, leap, ends]
    have split : t.clock = t.civil.hour * 3600 + t.civil.minute * 60 + 59 := by
      simp only [civil]
      omega
    rw [split, leap]
    exact .leapSecond hour minute second

theorem tells_civil {t : Instant} (whole : t.IsWhole) (years : t.InFourDigits) :
    t.civil.Tells t := by
  obtain ⟨d, day, first, last⟩ := years
  refine ⟨t.seconds / 86400, t.clock, ?_, clock_civil whole, ?_⟩
  · have year : (d.year.toNat : Int) = d.year := by omega
    have same : t.civil.date = d := by
      simp [civil, Civil.date, date, ← day.eq_ofDays, year]
    rw [same]
    exact day
  · simp only [clock]
    omega

theorem spells_civil {t : Instant} (whole : t.IsWhole) (years : t.InFourDigits) :
    t.civil.Spells (t.dateTime " ").toList := by
  obtain ⟨d, day, first, last⟩ := years
  have date : t.date = d := day.eq_ofDays.symm
  have valid := Date.isValid_ofDays (t.seconds / 86400)
  rw [← day.eq_ofDays, Date.isValid_iff] at valid
  have length := Date.daysInMonth_bounds d.year d.month
  have times := (clock_civil whole).lt_hundred
  have year : Date.yearText d.year = zeroPadded 4 d.year.toNat := if_pos ⟨first, last⟩
  refine ⟨_, _, _, _, _, _, ?_, fixed_padLeft (by decide) ?_, fixed_padLeft (by decide) ?_,
    fixed_padLeft (by decide) ?_, fixed_padLeft (by decide) times.1,
    fixed_padLeft (by decide) times.2.1, fixed_padLeft (by decide) times.2.2⟩
  · simp [dateTime, Date.text, timeText, zeroPadded, civil, date, year]
  · simp only [civil, date]
    omega
  · simp only [civil, date]
    omega
  · simp only [civil, date]
    omega

theorem denotes_dateTime {t : Instant} (whole : t.IsWhole) (years : t.InFourDigits) :
    Denotes (t.dateTime " ") t :=
  ⟨t.civil, spells_civil whole years, tells_civil whole years⟩

end Instant

namespace Sql

theorem quote_of_quiet {s : String} (quiet : '\'' ∉ s.toList) : quote s = "'" ++ s ++ "'" := by
  have single : quoteChars s.toList = s.toList := by
    unfold quoteChars
    rw [List.flatMap_congr (g := fun c => [c])]
    · exact List.flatMap_singleton' _
    · intro c member
      have other : c ≠ '\'' := by
        rintro rfl
        exact quiet member
      simp [other]
  rw [quote, single, String.ofList_toList]

theorem pieces_timeRange {column : String} {w : TimeRange} (quiet : '\'' ∉ column.toList)
    (start : '\'' ∉ (w.start.dateTime " ").toList) (stop : '\'' ∉ (w.stop.dateTime " ").toList) :
    pieces (timeRange column w) =
      some [.code ("(" ++ column ++ " >= ").toList, .literal (w.start.dateTime " ").toList,
        .code (") AND (" ++ column ++ " < ").toList, .literal (w.stop.dateTime " ").toList,
        .code [')']] := by
  have opening : '\'' ∉ ("(" ++ column ++ " >= ").toList := by simp [quiet]
  have middle : '\'' ∉ (") AND (" ++ column ++ " < ").toList := by simp [quiet]
  have split : (timeRange column w).toList =
      ("(" ++ column ++ " >= ").toList ++ ((quote (w.start.dateTime " ")).toList ++
        ((") AND (" ++ column ++ " < ").toList ++ ((quote (w.stop.dateTime " ")).toList ++ [')']))) := by
    simp [timeRange, quote_of_quiet start, quote_of_quiet stop]
  rw [pieces, split, scan_quote opening (by simp), scan_quote middle (by simp)]
  simp [scan]

/-- The two literals of a time range are read as its ends and as nothing else, and a time lies in the
range just if its own literal, compared as text, is not below the first and is below the second. -/
theorem timeRange_selects_window (column : String) {w : TimeRange}
    (start : w.start.IsWhole ∧ w.start.InFourDigits)
    (stop : w.stop.IsWhole ∧ w.stop.InFourDigits) :
    ∃ first last : String,
      timeRange column w =
        "(" ++ column ++ " >= '" ++ first ++ "') AND (" ++ column ++ " < '" ++ last ++ "')" ∧
      ('\'' ∉ column.toList → pieces (timeRange column w) =
        some [.code ("(" ++ column ++ " >= ").toList, .literal first.toList,
          .code (") AND (" ++ column ++ " < ").toList, .literal last.toList, .code [')']]) ∧
      (∀ t, Instant.Denotes first t ↔ t = w.start) ∧
      (∀ t, Instant.Denotes last t ↔ t = w.stop) ∧
      ∀ x : Instant, x.IsWhole → x.InFourDigits →
        (x.before w.start = false ∧ x.before w.stop = true ↔
          first ≤ x.dateTime " " ∧ x.dateTime " " < last) := by
  have first := Instant.denotes_dateTime start.1 start.2
  have last := Instant.denotes_dateTime stop.1 stop.2
  refine ⟨_, _, rfl, fun quiet => pieces_timeRange quiet first.quote_not_mem last.quote_not_mem,
    first.iff_eq, last.iff_eq, ?_⟩
  intro x whole years
  have text := Instant.denotes_dateTime whole years
  rw [first.le_iff text, text.lt_iff last]

-- From a leap day of the year 0 to a leap second.
theorem timeRange_of_leap_day :
    let w : TimeRange := ⟨⟨-62162078400, 0⟩, ⟨1483228799, 1000000000⟩⟩
    timeRange "intel.created_at" w =
        "(intel.created_at >= '0000-02-29 12:00:00') AND (intel.created_at < '2016-12-31 23:59:60')" ∧
      (w.start.IsWhole ∧ w.start.InFourDigits) ∧ (w.stop.IsWhole ∧ w.stop.InFourDigits) ∧
      ∃ first last : String,
        pieces (timeRange "intel.created_at" w) =
          some [.code "(intel.created_at >= ".toList, .literal first.toList,
            .code ") AND (intel.created_at < ".toList, .literal last.toList, .code [')']] ∧
        (∀ t, Instant.Denotes first t ↔ t = w.start) ∧
        (∀ t, Instant.Denotes last t ↔ t = w.stop) ∧
        ∀ x : Instant, x.IsWhole → x.InFourDigits →
          (x.before w.start = false ∧ x.before w.stop = true ↔
            first ≤ x.dateTime " " ∧ x.dateTime " " < last) := by
  intro w
  have start : w.start.IsWhole ∧ w.start.InFourDigits :=
    ⟨.inl rfl, _, Date.counted_ofDays _, by decide, by decide⟩
  have stop : w.stop.IsWhole ∧ w.stop.InFourDigits :=
    ⟨.inr ⟨rfl, by decide⟩, _, Date.counted_ofDays _, by decide, by decide⟩
  obtain ⟨first, last, _, read, selects⟩ := timeRange_selects_window "intel.created_at" start stop
  exact ⟨by decide, start, stop, first, last, read (by decide), selects⟩

end Sql

end QueryWorkload
