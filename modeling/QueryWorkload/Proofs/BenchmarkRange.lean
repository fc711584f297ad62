import QueryWorkload.Proofs.Instant
import QueryWorkload.Proofs.Precedence
import QueryWorkload.Proofs.Span

set_option autoImplicit false

namespace QueryWorkload

namespace Instant

def addSeconds (t : Instant) (v : Int) : Instant :=
  ⟨t.seconds + v, t.nanos⟩

theorem plus_wholeSeconds_eq {t : Instant} (plain : t.nanos < second) (v : Nat) :
    t.plus (v * second : Nat) = t.addSeconds v := by
  rw [plus_eq_ofNanos plain]
  simp only [second] at plain
  simp only [addSeconds, ofNanos, toNanos, second, Instant.mk.injEq]
  omega

theorem addSeconds_since {t : Instant} (plain : t.nanos < second) (v : Int) :
    (t.addSeconds v).since t = v * second := by
  rw [since_eq_sub (a := t.addSeconds v) plain plain]
  simp only [addSeconds, toNanos, second]
  omega

theorem addSeconds_not_before (t : Instant) {v : Int} (positive : 0 < v) :
    (t.addSeconds v).before t = false := by
  have later : ¬ t.seconds + v < t.seconds := by omega
  have other : t.seconds + v ≠ t.seconds := by omega
  simp [before, addSeconds, later, other]

end Instant

namespace Span

theorem read_ofSeconds_iff {text : String} {d : Duration} :
    read text = .ok d ↔ ∃ v : Nat, 0 < v ∧ Denotes text v ∧ d = .ofSeconds v := by
  rw [read_eq_ok_iff]
  constructor
  · intro ⟨v, denoted, positive, lengths⟩
    refine ⟨v.toNat, by omega, ?_, (eq_ofSeconds_iff d positive).2 lengths⟩
    rw [Int.toNat_of_nonneg (Int.le_of_lt positive)]
    exact (readSeconds_eq_ok_iff text v).1 denoted
  · intro ⟨v, positive, denoted, same⟩
    have later : (0 : Int) < v := by omega
    exact ⟨v, (readSeconds_eq_ok_iff text v).2 denoted, later,
      (eq_ofSeconds_iff d later).1 (by rw [same, Int.toNat_natCast])⟩

end Span

namespace Settings

variable {c : Settings} {text : String}

theorem range_of_no_span (unset : c.span = none) :
    c.range = (TimeRange.make c.start c.stop).mapError Error.badRange := by
  simp [range, rangeEnd, unset]

theorem range_with_stop (given : c.span = some text) (stop : Instant) :
    ({ c with stop := stop } : Settings).range = c.range := by
  simp [range, rangeEnd, given]

theorem range_of_bad_span (given : c.span = some text) {cause : Span.Error}
    (bad : Span.read text = .error cause) : c.range = .error (.badSpan cause) := by
  simp [range, rangeEnd, given, bad]

theorem range_of_seconds (plain : c.start.nanos < Instant.second) (given : c.span = some text)
    {v : Nat} (positive : 0 < v) (good : Span.read text = .ok (.ofSeconds v)) :
    c.range =
      if longestSpan < v then .error .spanTooLong
      else if (c.start.addSeconds v).inCalendar then .ok ⟨c.start, c.start.addSeconds v⟩
      else .error .spanPastCalendar := by
  have seconds : (Duration.ofSeconds v).seconds = v := Nat.mul_div_cancel v (by decide)
  have stop : c.start.plus (Duration.ofSeconds v).nanos = c.start.addSeconds v :=
    Instant.plus_wholeSeconds_eq plain v
  have inOrder : (c.start.addSeconds v).before c.start = false :=
    c.start.addSeconds_not_before (by omega)
  simp only [range, rangeEnd, given, good, seconds, stop]
  split_ifs <;> simp [TimeRange.make, inOrder]

theorem range_of_span_iff (plain : c.start.nanos < Instant.second) (given : c.span = some text)
    (r : TimeRange) :
    c.range = .ok r ↔
      ∃ v : Nat, 0 < v ∧ Span.Denotes text v ∧ v ≤ longestSpan ∧
        (c.start.addSeconds v).inCalendar = true ∧ r = ⟨c.start, c.start.addSeconds v⟩ := by
  constructor
  · intro ranged
    cases read : Span.read text with
    | error cause =>
      rw [range_of_bad_span given read] at ranged
      cases ranged
    | ok d =>
      obtain ⟨v, positive, denoted, rfl⟩ := Span.read_ofSeconds_iff.1 read
      rw [range_of_seconds plain given positive read] at ranged
      split_ifs at ranged with long inside
      exact ⟨v, positive, denoted, Nat.le_of_not_lt long, inside, (Except.ok.inj ranged).symm⟩
  · intro ⟨v, positive, denoted, short, inside, same⟩
    have read := Span.read_ofSeconds_iff.2 ⟨v, positive, denoted, rfl⟩
    rw [range_of_seconds plain given positive read, if_neg (Nat.not_lt.2 short), if_pos inside, same]

theorem error_of_span (plain : c.start.nanos < Instant.second) (given : c.span = some text)
    {e : Error} (refused : c.range = .error e) :
    e = .spanTooLong ∨ e = .spanPastCalendar ∨
      ∃ cause, Span.read text = .error cause ∧ e = .badSpan cause := by
  cases read : Span.read text with
  | error cause =>
    rw [range_of_bad_span given read] at refused
    exact .inr (.inr ⟨cause, rfl, (Except.error.inj refused).symm⟩)
  | ok d =>
    obtain ⟨v, positive, _, rfl⟩ := Span.read_ofSeconds_iff.1 read
    rw [range_of_seconds plain given positive read] at refused
    split_ifs at refused with long inside
    · exact .inl (Except.error.inj refused).symm
    · exact .inr (.inl (Except.error.inj refused).symm)

theorem duration_addSeconds {t : Instant} (plain : t.nanos < Instant.second) {v : Nat}
    (short : v ≤ longestSpan) : (⟨t, t.addSeconds v⟩ : TimeRange).duration = .ofSeconds v := by
  have length : (t.addSeconds v).since t = (v * Instant.second : Nat) := by
    rw [Instant.addSeconds_since plain, Nat.cast_mul]
  have below : v * Instant.second ≤ Instant.longest :=
    (Nat.mul_le_mul_right _ short).trans (by decide)
  rw [TimeRange.duration, length, Int.toNat_natCast, Nat.min_eq_left below]
  rfl

theorem eq_addSeconds_iff {t : Instant} (plain : t.nanos < Instant.second) {r : TimeRange} {v : Nat}
    (short : v ≤ longestSpan) :
    r = ⟨t, t.addSeconds v⟩ ↔
      r.start = t ∧ r.stop = t.addSeconds v ∧ r.duration = .ofSeconds v := by
  constructor
  · intro same
    subst same
    exact ⟨rfl, rfl, duration_addSeconds plain short⟩
  · intro ends
    obtain ⟨start, stop⟩ := r
    exact congrArg₂ TimeRange.mk ends.1 ends.2.1

/-- Without a span the range is from the start to the end that is given, unless that is before the
start. With a span the end that is given has no part in it: the range has exactly the seconds of the
span, which are more than none, with milliseconds in a signed number of 64 bits and an end in the
calendar, or it is refused for one of these. No range ends before it starts. -/
theorem range_exact_or_refused (c : Settings) (plain : c.start.nanos < Instant.second) :
    (c.span = none →
      (c.stop.before c.start = false → c.range = .ok ⟨c.start, c.stop⟩) ∧
      (c.stop.before c.start = true →
        c.range = .error (.badRange (.reversedRange c.start c.stop)))) ∧
    (∀ text, c.span = some text →
      (∀ stop, ({ c with stop := stop } : Settings).range = c.range) ∧
      (∀ r, c.range = .ok r ↔ ∃ v : Nat, Span.Denotes text v ∧ 0 < v ∧
        v * 1000 ≤ 9223372036854775807 ∧ (c.start.addSeconds v).inCalendar = true ∧
        r.start = c.start ∧ r.stop = c.start.addSeconds v ∧ r.duration = .ofSeconds v) ∧
      ∀ e, c.range = .error e → e = .spanTooLong ∨ e = .spanPastCalendar ∨
        ∃ cause, Span.read text = .error cause ∧ e = .badSpan cause) ∧
    ∀ r, c.range = .ok r → r.stop.before r.start = false := by
  refine ⟨fun unset => ?_, fun text given => ⟨range_with_stop given, fun r => ?_, fun e =>
    error_of_span plain given⟩, fun r ranged => (range_ok_iff.1 ranged).2.2⟩
  · rw [range_of_no_span unset]
    constructor
    · intro inOrder
      simp [TimeRange.make, inOrder]
    · intro reversed
      simp [TimeRange.make, reversed]
  · rw [range_of_span_iff plain given]
    apply exists_congr
    intro v
    have limit : v ≤ longestSpan ↔ v * 1000 ≤ 9223372036854775807 := by
      simp only [longestSpan]
      omega
    constructor
    · rintro ⟨positive, denoted, short, inside, same⟩
      exact ⟨denoted, positive, limit.1 short, inside, (eq_addSeconds_iff plain short).1 same⟩
    · rintro ⟨denoted, positive, short, inside, ends⟩
      have short := limit.2 short
      exact ⟨positive, denoted, short, inside, (eq_addSeconds_iff plain short).2 ends⟩

-- A span up to the last second of the calendar, given with an end that counts for nothing.
theorem range_of_last_second :
    let c : Settings :=
      { start := ⟨8210266790400, 999999999⟩, stop := ⟨0, 0⟩, span := some " 86399s" }
    c.start.nanos < Instant.second ∧
      c.range = .ok ⟨⟨8210266790400, 999999999⟩, ⟨8210266876799, 999999999⟩⟩ ∧
      ∀ stop, ({ c with stop := stop } : Settings).range = c.range := by
  intro c
  have plain : c.start.nanos < Instant.second := by decide
  have denoted : Span.Denotes " 86399s" (86399 : Nat) :=
    (Span.readSeconds_eq_ok_iff _ _).1 (by decide)
  obtain ⟨_, spanned, _⟩ := range_exact_or_refused c plain
  obtain ⟨anyStop, exact, _⟩ := spanned " 86399s" rfl
  have ranged := (exact ⟨⟨8210266790400, 999999999⟩, ⟨8210266876799, 999999999⟩⟩).2
    ⟨86399, denoted, by decide, by decide, by decide, rfl, by decide, by decide⟩
  exact ⟨plain, ranged, anyStop⟩

end Settings

end QueryWorkload
