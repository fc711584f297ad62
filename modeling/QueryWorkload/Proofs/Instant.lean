import QueryWorkload.TimeRange

set_option autoImplicit false

namespace QueryWorkload.Instant

@[simp] theorem toNanos_ofNanos (n : Int) : (ofNanos n).toNanos = n := by
  have split := Int.mul_ediv_add_emod n second
  have positive := Int.emod_nonneg n (show (second : Int) ≠ 0 by decide)
  simp only [ofNanos, toNanos, second] at *
  omega

theorem ofNanos_nanos_lt (n : Int) : (ofNanos n).nanos < second := by
  have bound := Int.emod_lt_of_pos n (show (0 : Int) < second by decide)
  simp only [ofNanos, second] at *
  omega

theorem isLeap_eq_false {t : Instant} (plain : t.nanos < second) : t.isLeap = false := by
  simpa [isLeap] using plain

theorem plus_eq_ofNanos {t : Instant} (plain : t.nanos < second) (n : Int) :
    t.plus n = ofNanos (t.toNanos + n) := by
  simp [plus, isLeap_eq_false plain]

theorem plus_plus {t : Instant} (plain : t.nanos < second) (m n : Int) :
    (t.plus m).plus n = t.plus (m + n) := by
  rw [plus_eq_ofNanos plain m, plus_eq_ofNanos (ofNanos_nanos_lt _) n, plus_eq_ofNanos plain]
  rw [toNanos_ofNanos, Int.add_assoc]

theorem nanos_ofSeconds_lt (a : Int) : (ofSeconds a).nanos < second := by
  simp [ofSeconds]

theorem ofSeconds_plus (a : Int) (n : Nat) :
    (ofSeconds a).plus (n * second : Nat) = ofSeconds (a + n) := by
  rw [plus_eq_ofNanos (nanos_ofSeconds_lt a)]
  simp only [ofSeconds, ofNanos, toNanos, second, Instant.mk.injEq]
  omega

theorem since_eq_sub {a b : Instant} (plainA : a.nanos < second) (plainB : b.nanos < second) :
    a.since b = a.toNanos - b.toNanos := by
  simp [since, isLeap_eq_false plainA, isLeap_eq_false plainB]

theorem before_iff {a b : Instant} (plainA : a.nanos < second) (plainB : b.nanos < second) :
    a.before b = true ↔ a.toNanos < b.toNanos := by
  simp only [second] at plainA plainB
  simp only [before, toNanos, second, Bool.or_eq_true, Bool.and_eq_true, decide_eq_true_eq]
  omega

theorem before_eq_false_iff {a b : Instant} (plainA : a.nanos < second) (plainB : b.nanos < second) :
    a.before b = false ↔ b.toNanos ≤ a.toNanos := by
  rw [← Bool.not_eq_true, before_iff plainA plainB]
  omega

theorem inCalendar_iff (t : Instant) :
    t.inCalendar = true ↔ -8334601228800 ≤ t.seconds ∧ t.seconds ≤ 8210266876799 := by
  simp [inCalendar]

theorem inCalendar_of_between {a t b : Instant} (plainA : a.nanos < second)
    (plainT : t.nanos < second) (plainB : b.nanos < second) (first : a.inCalendar = true)
    (last : b.inCalendar = true) (after : a.toNanos ≤ t.toNanos) (before : t.toNanos ≤ b.toNanos) :
    t.inCalendar = true := by
  rw [inCalendar_iff] at first last ⊢
  simp only [toNanos, second] at *
  omega

theorem plus_bounds {t : Instant} (short : t.nanos < 2 * second) (n : Int) :
    (t.plus n).nanos < 2 * second ∧ t.toNanos + n - second ≤ (t.plus n).toNanos ∧
      (t.plus n).toNanos ≤ t.toNanos + n := by
  have split := Int.mul_tdiv_add_tmod n second
  have above := Int.tmod_lt_of_pos n (show (0 : Int) < second by decide)
  have below := Int.lt_tmod_of_pos n (show (0 : Int) < second by decide)
  have lines (m : Int) : (ofNanos m).nanos < 2 * second := by
    have := ofNanos_nanos_lt m
    omega
  unfold plus
  by_cases leap : t.isLeap = true
  · have long : second ≤ t.nanos := by simpa [isLeap] using leap
    -- A step out of the leap second passes it by as if it were not there.
    simp only [leap, if_true, Bool.or_eq_true, Bool.and_eq_true, decide_eq_true_eq]
    split
    · refine ⟨lines _, ?_⟩
      rw [toNanos_ofNanos]
      omega
    · split
      · refine ⟨lines _, ?_⟩
        rw [toNanos_ofNanos]
        omega
      · simp only [toNanos, second] at *
        omega
  · simp only [leap, Bool.false_eq_true, if_false]
    refine ⟨lines _, ?_⟩
    rw [toNanos_ofNanos]
    omega

-- Whole seconds are counted exactly, also from a leap second on: it is left as the second before it.
theorem seconds_plus {t : Instant} (short : t.nanos < 2 * second) (n : Nat) :
    (t.plus (n * second : Nat)).seconds = t.seconds + n := by
  have whole : ((n * second : Nat) : Int).tdiv second = n := by
    rw [Int.natCast_mul, Int.mul_tdiv_cancel _ (by decide)]
  have part : ((n * second : Nat) : Int).tmod second = 0 := by
    rw [Int.natCast_mul, Int.mul_tmod_left]
  simp only [plus, whole, part]
  by_cases leap : t.isLeap = true
  · have long : second ≤ t.nanos := by simpa [isLeap] using leap
    by_cases stays : n = 0
    · simp [leap, stays]
    · have past : (0 : Int) < n := by omega
      simp only [leap, past, decide_true, Bool.true_or, if_true, ofNanos, toNanos, second] at *
      omega
  · have plain : t.nanos < second := by simpa [isLeap] using leap
    simp only [leap, Bool.false_eq_true, if_false, ofNanos, toNanos, second] at *
    omega

theorem since_bounds (a b : Instant) :
    a.toNanos - b.toNanos - second ≤ a.since b ∧ a.since b ≤ a.toNanos - b.toNanos + second := by
  simp only [since]
  split
  · omega
  · split <;> omega

end QueryWorkload.Instant
