import QueryWorkload.Proofs.Draw
import QueryWorkload.Proofs.Instant

set_option autoImplicit false

namespace QueryWorkload.TimeRange

open Instant

structure Plain (r : TimeRange) : Prop where
  start_nanos : r.start.nanos < second
  stop_nanos : r.stop.nanos < second
  start_inCalendar : r.start.inCalendar = true
  stop_inCalendar : r.stop.inCalendar = true

def Within (w r : TimeRange) : Prop :=
  w.start.before r.start = false ∧ r.stop.before w.stop = false

def GivesPart (r : TimeRange) (d : Duration) (result : Except Failure TimeRange) : Prop :=
  ∃ w, result = .ok w ∧ w.stop.since w.start = d.nanos ∧ w.Within r

def latestStart (r : TimeRange) (d : Duration) : Instant :=
  r.stop.plus (-(d.nanos : Int))

theorem checkWindow_ok_iff (r : TimeRange) (d : Duration) :
    r.checkWindow d = .ok () ↔ 0 < d.nanos ∧ d.nanos ≤ r.duration.nanos := by
  simp only [checkWindow]
  split <;> simp_all

-- Times between instants of the calendar are far from the longest one.
theorem since_lt_longest {r : TimeRange} (short : r.stop.nanos < 2 * second)
    (first : r.start.inCalendar = true) (last : r.stop.inCalendar = true) :
    r.stop.since r.start < longest := by
  have span := since_bounds r.stop r.start
  rw [inCalendar_iff] at first last
  simp only [toNanos, second, longest] at *
  omega

theorem duration_of_inCalendar {r : TimeRange} (short : r.stop.nanos < 2 * second)
    (first : r.start.inCalendar = true) (last : r.stop.inCalendar = true) :
    r.duration = ⟨(r.stop.since r.start).toNat⟩ := by
  have below := since_lt_longest short first last
  rw [duration, Nat.min_eq_left (by omega)]

-- The length of a range is cut off at the longest time, so a window that passes the check is no longer
-- than that, and its length is not refused a second time.
theorem nanos_le_of_checked {r : TimeRange} {d : Duration} (checked : r.checkWindow d = .ok ()) :
    (d.nanos : Int) ≤ r.stop.since r.start ∧ d.nanos ≤ longest := by
  obtain ⟨positive, fits⟩ := (checkWindow_ok_iff r d).1 checked
  obtain ⟨length, short⟩ := Nat.le_min.1 fits
  exact ⟨by omega, short⟩

section Source

variable {σ : Type} [WordSource σ]

theorem drawOffset_le (r : TimeRange) (d : Duration) (s : σ) :
    (r.drawOffset d s).1 ≤ r.lastOffset d := by
  simp only [drawOffset]
  split
  · exact Nat.le_of_lt_succ (Draw.below64_lt (Nat.succ_pos _) s)
  · exact Nat.zero_le _

theorem drawWindow_of_refused {r : TimeRange} {d : Duration} {why : Refusal}
    (refused : r.checkWindow d = .error why) (s : σ) :
    r.drawWindow d s = (.error (.refused why), s) := by
  simp only [drawWindow, refused]

theorem drawWindow_of_checked {r : TimeRange} {d : Duration} (checked : r.checkWindow d = .ok ())
    (s : σ) :
    r.drawWindow d s =
      (if (r.windowAt d (r.drawOffset d s).1).start.inCalendar &&
          (r.windowAt d (r.drawOffset d s).1).stop.inCalendar then
        .ok (r.windowAt d (r.drawOffset d s).1)
      else .error (.fault .pastCalendar), (r.drawOffset d s).2) := by
  have short : ¬ longest < d.nanos := Nat.not_lt.2 (nanos_le_of_checked checked).2
  simp only [drawWindow, checked, if_neg short]
  split <;> rfl

theorem drawWindow_eq_ok {r w : TimeRange} {d : Duration} {s : σ}
    (drawn : (r.drawWindow d s).1 = .ok w) :
    r.checkWindow d = .ok () ∧ w = r.windowAt d (r.drawOffset d s).1 := by
  cases checked : r.checkWindow d with
  | error why =>
    rw [drawWindow_of_refused checked] at drawn
    cases drawn
  | ok _ =>
    rw [drawWindow_of_checked checked] at drawn
    split at drawn
    · cases drawn
      exact ⟨rfl, rfl⟩
    · cases drawn

theorem inCalendar_of_drawWindow {r w : TimeRange} {d : Duration} {s : σ}
    (drawn : (r.drawWindow d s).1 = .ok w) :
    w.start.inCalendar = true ∧ w.stop.inCalendar = true := by
  rw [drawWindow_of_checked (drawWindow_eq_ok drawn).1] at drawn
  split at drawn
  next inside =>
    cases drawn
    exact Bool.and_eq_true_iff.1 inside
  next => cases drawn

end Source

section Arithmetic

variable {r : TimeRange} {d : Duration}

theorem Plain.latestStart_toNanos (plain : r.Plain) :
    (r.latestStart d).toNanos = r.stop.toNanos - d.nanos := by
  rw [latestStart, plus_eq_ofNanos plain.stop_nanos, toNanos_ofNanos]
  omega

theorem Plain.latestStart_nanos_lt (plain : r.Plain) : (r.latestStart d).nanos < second := by
  rw [latestStart, plus_eq_ofNanos plain.stop_nanos]
  exact ofNanos_nanos_lt _

theorem Plain.windowAt_start (plain : r.Plain) (offset : Nat) :
    (r.windowAt d offset).start = ofNanos (r.start.toNanos + (offset * second : Nat)) :=
  plus_eq_ofNanos plain.start_nanos _

theorem Plain.windowAt_stop (plain : r.Plain) (offset : Nat) :
    (r.windowAt d offset).stop =
      ofNanos (r.start.toNanos + (offset * second : Nat) + d.nanos) := by
  change (r.start.plus (offset * second : Nat)).plus d.nanos = _
  rw [plus_plus plain.start_nanos, plus_eq_ofNanos plain.start_nanos, Int.add_assoc]

theorem Plain.windowAt_length (plain : r.Plain) (offset : Nat) :
    (r.windowAt d offset).stop.since (r.windowAt d offset).start = d.nanos := by
  rw [plain.windowAt_start, plain.windowAt_stop,
    since_eq_sub (ofNanos_nanos_lt _) (ofNanos_nanos_lt _)]
  simp only [toNanos_ofNanos]
  omega

theorem Plain.windowAt_start_not_before (plain : r.Plain) (offset : Nat) :
    (r.windowAt d offset).start.before r.start = false := by
  rw [plain.windowAt_start, before_eq_false_iff (ofNanos_nanos_lt _) plain.start_nanos,
    toNanos_ofNanos]
  omega

theorem Plain.windowAt_stop_inside_iff (plain : r.Plain) (offset : Nat) :
    r.stop.before (r.windowAt d offset).stop = false ↔
      r.start.toNanos + (offset * second : Nat) ≤ (r.latestStart d).toNanos := by
  rw [plain.windowAt_stop, before_eq_false_iff plain.stop_nanos (ofNanos_nanos_lt _),
    toNanos_ofNanos, plain.latestStart_toNanos]
  omega

variable (fits : (d.nanos : Int) ≤ r.stop.since r.start)

include fits

theorem Plain.start_le_latestStart (plain : r.Plain) :
    r.start.toNanos ≤ (r.latestStart d).toNanos := by
  rw [since_eq_sub plain.stop_nanos plain.start_nanos] at fits
  rw [plain.latestStart_toNanos]
  omega

theorem Plain.lastOffset_eq (plain : r.Plain) :
    (r.lastOffset d : Int) = (r.latestStart d).seconds - r.start.seconds := by
  have order := plain.start_le_latestStart fits
  have short := plain.latestStart_nanos_lt (d := d)
  have start := plain.start_nanos
  change (((r.latestStart d).seconds - r.start.seconds).toNat : Int) = _
  simp only [toNanos, second] at *
  omega

theorem Plain.windowAt_within_iff (plain : r.Plain) {offset : Nat}
    (offered : offset ≤ r.lastOffset d) :
    (r.windowAt d offset).Within r ↔
      (offset = r.lastOffset d → r.start.nanos ≤ (r.latestStart d).nanos) := by
  have last := plain.lastOffset_eq fits
  have short := plain.latestStart_nanos_lt (d := d)
  have start := plain.start_nanos
  simp only [Within, plain.windowAt_start_not_before, true_and, plain.windowAt_stop_inside_iff]
  -- In whole seconds every offset up to the last fits; at the last one the nanoseconds decide.
  simp only [toNanos, second] at *
  omega

theorem Plain.windowAt_stop_lt (plain : r.Plain) {offset : Nat}
    (offered : offset ≤ r.lastOffset d) :
    (r.windowAt d offset).stop.toNanos < r.stop.toNanos + second := by
  have last := plain.lastOffset_eq fits
  have latest := plain.latestStart_toNanos (d := d)
  -- What the rounding of the start drops is less than a second, and so is what a window is late by.
  have start := plain.start_nanos
  rw [plain.windowAt_stop, toNanos_ofNanos]
  simp only [toNanos, second] at *
  omega

theorem Plain.lastOffset_lt (plain : r.Plain) : r.lastOffset d + 1 ≤ UInt64.size := by
  have last := plain.lastOffset_eq fits
  have latest := plain.latestStart_toNanos (d := d)
  have short := plain.stop_nanos
  have first := (inCalendar_iff _).1 plain.start_inCalendar
  have final := (inCalendar_iff _).1 plain.stop_inCalendar
  simp only [toNanos, second] at *
  have size : UInt64.size = 18446744073709551616 := rfl
  omega

omit fits in
theorem Plain.inCalendar_of_within (plain : r.Plain) {offset : Nat}
    (inside : (r.windowAt d offset).Within r) :
    (r.windowAt d offset).start.inCalendar = true ∧
      (r.windowAt d offset).stop.inCalendar = true := by
  have ends := (plain.windowAt_stop_inside_iff offset).1 inside.2
  rw [plain.latestStart_toNanos] at ends
  rw [plain.windowAt_start, plain.windowAt_stop]
  constructor <;>
    apply inCalendar_of_between plain.start_nanos (ofNanos_nanos_lt _) plain.stop_nanos
      plain.start_inCalendar plain.stop_inCalendar <;>
    rw [toNanos_ofNanos] <;> omega

theorem Plain.drawWindow_givesPart_iff {σ : Type} [WordSource σ] (plain : r.Plain)
    (checked : r.checkWindow d = .ok ()) (s : σ) :
    r.GivesPart d (r.drawWindow d s).1 ↔
      ((r.drawOffset d s).1 = r.lastOffset d → r.start.nanos ≤ (r.latestStart d).nanos) := by
  rw [← plain.windowAt_within_iff fits (r.drawOffset_le d s), drawWindow_of_checked checked]
  constructor
  · rintro ⟨w, drawn, -, inside⟩
    split at drawn
    · cases drawn
      exact inside
    · cases drawn
  · intro inside
    obtain ⟨first, final⟩ := plain.inCalendar_of_within inside
    exact ⟨_, by simp [first, final], plain.windowAt_length _, inside⟩

theorem Plain.windowAt_inCalendar (plain : r.Plain) {offset : Nat}
    (offered : offset ≤ r.lastOffset d) (room : inCalendar ⟨r.stop.seconds + 1, 0⟩ = true) :
    (r.windowAt d offset).start.inCalendar = true ∧
      (r.windowAt d offset).stop.inCalendar = true := by
  have late := plain.windowAt_stop_lt fits offered
  have start := plain.start_nanos
  have stop := plain.stop_nanos
  have first := (inCalendar_iff _).1 plain.start_inCalendar
  rw [plain.windowAt_stop, toNanos_ofNanos] at late
  rw [plain.windowAt_start, plain.windowAt_stop]
  simp only [inCalendar_iff, ofNanos, toNanos, second] at *
  omega

end Arithmetic

theorem Plain.checkWindow_of_fits {r : TimeRange} {d : Duration} (plain : r.Plain)
    (positive : 0 < d.nanos) (fits : (d.nanos : Int) ≤ r.stop.since r.start) :
    r.checkWindow d = .ok () := by
  have short := plain.stop_nanos
  refine (checkWindow_ok_iff r d).2 ⟨positive, ?_⟩
  rw [duration_of_inCalendar (by omega) plain.start_inCalendar plain.stop_inCalendar]
  change d.nanos ≤ (r.stop.since r.start).toNat
  omega

-- The greatest word, over and over.
def greatestWords : Script :=
  .ofList [0xFFFFFFFFFFFFFFFF]

theorem Plain.drawOffset_greatestWords {r : TimeRange} {d : Duration} (plain : r.Plain)
    (fits : (d.nanos : Int) ≤ r.stop.since r.start) :
    (r.drawOffset d greatestWords).1 = r.lastOffset d := by
  simp only [drawOffset]
  split
  · exact Draw.below64_of_greatest (Nat.succ_pos _) (plain.lastOffset_lt fits) rfl
  · omega

theorem Plain.drawWindow_cases {r : TimeRange} {d : Duration} {σ : Type} [WordSource σ]
    (plain : r.Plain) (fits : (d.nanos : Int) ≤ r.stop.since r.start)
    (checked : r.checkWindow d = .ok ()) (s : σ) :
    (∃ w, (r.drawWindow d s).1 = .ok w ∧ w.stop.since w.start = d.nanos ∧
      w.start.before r.start = false ∧ w.stop.toNanos < r.stop.toNanos + second) ∨
    ((r.drawWindow d s).1 = .error (.fault .pastCalendar) ∧
      inCalendar ⟨r.stop.seconds + 1, 0⟩ = false) := by
  have offered := r.drawOffset_le d s
  rw [drawWindow_of_checked checked]
  by_cases room : inCalendar ⟨r.stop.seconds + 1, 0⟩ = true
  · left
    obtain ⟨first, final⟩ := plain.windowAt_inCalendar fits offered room
    exact ⟨_, by simp [first, final], plain.windowAt_length _, plain.windowAt_start_not_before _,
      plain.windowAt_stop_lt fits offered⟩
  · split
    · left
      exact ⟨_, rfl, plain.windowAt_length _, plain.windowAt_start_not_before _,
        plain.windowAt_stop_lt fits offered⟩
    · right
      exact ⟨rfl, by simpa using room⟩

/-- Every window lies in the range just if the range does not start later in its second than the
latest start does. Whatever the range, a window is exact, does not start early, and ends less than a
second late; it is missing only where the calendar ends with the range. -/
theorem windows_within_iff (r : TimeRange) (d : Duration) (plain : r.Plain) (positive : 0 < d.nanos)
    (fits : (d.nanos : Int) ≤ r.stop.since r.start) :
    ((∀ (σ : Type) [WordSource σ] (s : σ), r.GivesPart d (r.drawWindow d s).1) ↔
      r.start.nanos ≤ (r.latestStart d).nanos) ∧
    ∀ (σ : Type) [WordSource σ] (s : σ),
      (∃ w, (r.drawWindow d s).1 = .ok w ∧ w.stop.since w.start = d.nanos ∧
        w.start.before r.start = false ∧ w.stop.toNanos < r.stop.toNanos + second) ∨
      ((r.drawWindow d s).1 = .error (.fault .pastCalendar) ∧
        inCalendar ⟨r.stop.seconds + 1, 0⟩ = false) := by
  have checked := plain.checkWindow_of_fits positive fits
  refine ⟨⟨?_, ?_⟩, ?_⟩
  · -- The greatest words draw the last offset, the only one at which a window can be late.
    intro parts
    have given := parts Script greatestWords
    rw [plain.drawWindow_givesPart_iff fits checked] at given
    exact given (plain.drawOffset_greatestWords fits)
  · intro early σ _ s
    exact (plain.drawWindow_givesPart_iff fits checked s).2 fun _ => early
  · intro σ _ s
    exact plain.drawWindow_cases fits checked s

theorem windows_of_half_seconds :
    let r : TimeRange := ⟨⟨-7, 250000000⟩, ⟨7, 750000000⟩⟩
    let d : Duration := ⟨1500000000⟩
    r.GivesPart d (r.drawWindow d (Script.ofList [3, 18446744073709551615])).1 ∧
      r.GivesPart d (r.drawWindow d greatestWords).1 := by
  intro r d
  have given := (windows_within_iff r d ⟨by decide, by decide, by decide, by decide⟩ (by decide)
    (by decide)).1.2 (by decide)
  exact ⟨given Script _, given Script _⟩

/-- From 0.9 s to 2.1 s, the greatest word draws the second from 1.9 s to 2.9 s. -/
theorem window_past_stop :
    let r : TimeRange := ⟨⟨0, 900000000⟩, ⟨2, 100000000⟩⟩
    let d := Duration.ofSeconds 1
    r.stop.before r.start = false ∧ 0 < d.nanos ∧ (d.nanos : Int) ≤ r.stop.since r.start ∧
      (r.drawWindow d greatestWords).1 = .ok ⟨⟨1, 900000000⟩, ⟨2, 900000000⟩⟩ ∧
      r.stop.before ⟨2, 900000000⟩ = true := by
  decide

-- The calendar goes on for some seconds past both ends, leap seconds included.
structure Clear (r : TimeRange) : Prop where
  start_nanos : r.start.nanos < 2 * second
  stop_nanos : r.stop.nanos < 2 * second
  before_start : inCalendar ⟨r.start.seconds - 4, 0⟩ = true
  after_stop : inCalendar ⟨r.stop.seconds + 4, 0⟩ = true

theorem Clear.windowAt_inCalendar {r : TimeRange} {d : Duration} (clear : r.Clear)
    (checked : r.checkWindow d = .ok ()) {offset : Nat} (offered : offset ≤ r.lastOffset d) :
    (r.windowAt d offset).start.inCalendar = true ∧
      (r.windowAt d offset).stop.inCalendar = true := by
  obtain ⟨startShort, stopShort, before, after⟩ := clear
  have length := (nanos_le_of_checked checked).1
  have span := since_bounds r.stop r.start
  have latest := plus_bounds stopShort (-(d.nanos : Int))
  have first := plus_bounds startShort (offset * second : Nat)
  have final := plus_bounds first.1 d.nanos
  have last : (offset : Int) ≤ max 0 ((r.stop.plus (-(d.nanos : Int))).seconds - r.start.seconds) := by
    change offset ≤ ((r.stop.plus (-(d.nanos : Int))).seconds - r.start.seconds).toNat at offered
    omega
  simp only [windowAt, inCalendar_iff, toNanos, second] at *
  omega

theorem Clear.drawWindow_ok {r : TimeRange} {d : Duration} {σ : Type} [WordSource σ]
    (clear : r.Clear) (checked : r.checkWindow d = .ok ()) (s : σ) :
    r.drawWindow d s =
      (.ok (r.windowAt d (r.drawOffset d s).1), (r.drawOffset d s).2) := by
  obtain ⟨first, final⟩ := clear.windowAt_inCalendar checked (r.drawOffset_le d s)
  rw [drawWindow_of_checked checked, first, final]
  rfl

end QueryWorkload.TimeRange
