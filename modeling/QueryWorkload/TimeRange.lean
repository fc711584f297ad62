import QueryWorkload.Failure
import QueryWorkload.Json
import QueryWorkload.Random.Draw

set_option autoImplicit false

namespace QueryWorkload

structure TimeRange where
  start : Instant
  stop : Instant
  deriving DecidableEq, Repr

namespace TimeRange

def make (start stop : Instant) : Except Refusal TimeRange :=
  if stop.before start then .error (.reversedRange start stop) else .ok ⟨start, stop⟩

def toJson (r : TimeRange) : Json :=
  .obj [("start", .str r.start.toText), ("end", .str r.stop.toText)]

/-- The time between the two ends; a reversed range has none. -/
def duration (r : TimeRange) : Duration :=
  ⟨min (r.stop.since r.start).toNat Instant.longest⟩

def checkWindow (r : TimeRange) (window : Duration) : Except Refusal Unit :=
  if 0 < window.nanos ∧ window.nanos ≤ r.duration.nanos then .ok ()
  else .error (.windowTooLarge window r.duration)

def lastOffset (r : TimeRange) (window : Duration) : Nat :=
  ((r.stop.plus (-(window.nanos : Int))).seconds - r.start.seconds).toNat

def windowAt (r : TimeRange) (window : Duration) (offset : Nat) : TimeRange :=
  let start := r.start.plus (offset * Instant.second : Nat)
  ⟨start, start.plus window.nanos⟩

variable {σ : Type} [WordSource σ]

/-- Every offset is as likely as any other. No word is drawn when there is only one. -/
def drawOffset (r : TimeRange) (window : Duration) (s : σ) : Nat × σ :=
  if 0 < r.lastOffset window then Draw.below64 (r.lastOffset window + 1) s else (0, s)

def drawWindow (r : TimeRange) (window : Duration) (s : σ) : Except Failure TimeRange × σ :=
  match r.checkWindow window with
  | .error why => (.error why, s)
  | .ok () =>
    if Instant.longest < window.nanos then (.error (Refusal.windowTooLarge window r.duration), s)
    else
      let (offset, s) := r.drawOffset window s
      let w := r.windowAt window offset
      if w.start.inCalendar && w.stop.inCalendar then (.ok w, s)
      else (.error Fault.pastCalendar, s)

end TimeRange

end QueryWorkload
