import Mathlib
import QueryWorkload.Proofs.Window

set_option autoImplicit false

namespace QueryWorkload

open Instant

namespace TimeRange

def wholeSeconds (a b : Int) : TimeRange :=
  ⟨ofSeconds a, ofSeconds b⟩

def Windows (r : TimeRange) (d : Duration) : Set TimeRange :=
  {w | ∃ (σ : Type) (_ : WordSource σ) (s : σ), (r.drawWindow d s).1 = .ok w}

theorem drawOffset_wordsFor {r : TimeRange} {d : Duration} {offset : Nat}
    (offered : offset ≤ r.lastOffset d) (fits : r.lastOffset d + 1 ≤ UInt64.size) :
    (r.drawOffset d (Draw.wordsFor (r.lastOffset d + 1) offset)).1 = offset := by
  simp only [drawOffset]
  split
  · exact Draw.below64_wordsFor (Nat.lt_succ_of_le offered) fits
  · -- Nothing is drawn, and there is no other offset.
    omega

theorem windowAt_wholeSeconds (a b : Int) (n offset : Nat) :
    (wholeSeconds a b).windowAt (.ofSeconds n) offset =
      wholeSeconds (a + offset) (a + offset + n) := by
  have start := ofSeconds_plus a offset
  have stop := ofSeconds_plus (a + offset) n
  simp only [windowAt, wholeSeconds, Duration.ofSeconds, start, stop]

section WholeSeconds

variable {a b : Int} {n : Nat}

theorem plain_wholeSeconds (first : (ofSeconds a).inCalendar = true)
    (last : (ofSeconds b).inCalendar = true) : (wholeSeconds a b).Plain :=
  ⟨nanos_ofSeconds_lt a, nanos_ofSeconds_lt b, first, last⟩

theorem since_wholeSeconds (a b : Int) :
    (ofSeconds b).since (ofSeconds a) = (b - a) * second := by
  rw [since_eq_sub (nanos_ofSeconds_lt b) (nanos_ofSeconds_lt a)]
  simp only [ofSeconds, toNanos, second]
  omega

variable (fits : a + n ≤ b)

include fits

theorem length_le_wholeSeconds :
    ((Duration.ofSeconds n).nanos : Int) ≤ (wholeSeconds a b).stop.since (wholeSeconds a b).start := by
  simp only [wholeSeconds, since_wholeSeconds, Duration.ofSeconds, Duration.nanosPerSecond, second]
  omega

theorem lastOffset_wholeSeconds :
    ((wholeSeconds a b).lastOffset (.ofSeconds n) : Int) = b - n - a := by
  simp only [lastOffset, wholeSeconds, plus_eq_ofNanos (nanos_ofSeconds_lt b)]
  simp only [ofSeconds, ofNanos, toNanos, Duration.ofSeconds, Duration.nanosPerSecond, second]
  omega

variable (positive : 0 < n) (first : (ofSeconds a).inCalendar = true)
  (last : (ofSeconds b).inCalendar = true)

include positive first last

theorem drawWindow_wholeSeconds {σ : Type} [WordSource σ] (s : σ) :
    ((wholeSeconds a b).drawWindow (.ofSeconds n) s).1 =
      .ok ((wholeSeconds a b).windowAt (.ofSeconds n)
        ((wholeSeconds a b).drawOffset (.ofSeconds n) s).1) := by
  have length := length_le_wholeSeconds fits
  have lasting : 0 < (Duration.ofSeconds n).nanos := by
    simp only [Duration.ofSeconds, Duration.nanosPerSecond]
    omega
  have plain := plain_wholeSeconds first last
  have checked := plain.checkWindow_of_fits lasting length
  -- The range starts at the beginning of a second, so no window is late.
  have part := (plain.drawWindow_givesPart_iff length checked s).2
    fun _ => Nat.zero_le _
  obtain ⟨w, drawn, _, _⟩ := part
  rw [drawn, (drawWindow_eq_ok drawn).2]

end WholeSeconds

/-- Every draw from a range of whole seconds gives a window, and the windows it can give are those that
start with a second of the range, last as long as was asked for, and end in the range. -/
theorem windows_wholeSeconds_eq {a b : Int} {n : Nat} (positive : 0 < n) (fits : a + n ≤ b)
    (first : (ofSeconds a).inCalendar = true) (last : (ofSeconds b).inCalendar = true) :
    (∀ (σ : Type) [WordSource σ] (s : σ),
      ∃ w, ((wholeSeconds a b).drawWindow (.ofSeconds n) s).1 = .ok w) ∧
    (wholeSeconds a b).Windows (.ofSeconds n) =
      (fun s : Int => wholeSeconds s (s + n)) '' Set.Icc a (b - n) := by
  have offsets := lastOffset_wholeSeconds fits
  constructor
  · intro σ _ s
    exact ⟨_, drawWindow_wholeSeconds fits positive first last s⟩
  ext w
  constructor
  · intro given
    obtain ⟨σ, _, s, drawn⟩ := given
    have offered := (wholeSeconds a b).drawOffset_le (.ofSeconds n) s
    simp only [drawWindow_wholeSeconds fits positive first last, windowAt_wholeSeconds,
      Except.ok.injEq] at drawn
    refine ⟨a + ((wholeSeconds a b).drawOffset (.ofSeconds n) s).1, ⟨?_, ?_⟩, drawn⟩ <;> omega
  · intro fitting
    obtain ⟨s, ⟨low, high⟩, rfl⟩ := fitting
    obtain ⟨offset, rfl⟩ : ∃ offset : Nat, s = a + offset := ⟨(s - a).toNat, by omega⟩
    have offered : offset ≤ (wholeSeconds a b).lastOffset (.ofSeconds n) := by omega
    have small := (plain_wholeSeconds first last).lastOffset_lt (length_le_wholeSeconds fits)
    let words := Draw.wordsFor ((wholeSeconds a b).lastOffset (.ofSeconds n) + 1) offset
    refine ⟨Script, inferInstance, words, ?_⟩
    simp only [words, drawWindow_wholeSeconds fits positive first last,
      drawOffset_wordsFor offered small, windowAt_wholeSeconds]

theorem windows_of_three_seconds :
    wholeSeconds (-1) 1 ∈ (wholeSeconds (-1) 2).Windows (.ofSeconds 2) ∧
      wholeSeconds 0 2 ∈ (wholeSeconds (-1) 2).Windows (.ofSeconds 2) ∧
      wholeSeconds 1 3 ∉ (wholeSeconds (-1) 2).Windows (.ofSeconds 2) := by
  have windows := (windows_wholeSeconds_eq (a := -1) (b := 2) (n := 2) (by decide) (by decide)
    (by decide) (by decide)).2
  simp only [windows]
  refine ⟨⟨-1, by simp, rfl⟩, ⟨0, by simp, rfl⟩, fun drawn => ?_⟩
  obtain ⟨s, ⟨_, high⟩, same⟩ := drawn
  have start : s = 1 := congrArg (fun w : TimeRange => w.start.seconds) same
  omega

end TimeRange

end QueryWorkload
