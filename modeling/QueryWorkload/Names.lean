import QueryWorkload.Entity
import QueryWorkload.Population
import QueryWorkload.Random.Shuffle

set_option autoImplicit false

namespace QueryWorkload.Names

def name (kind : EntityKind) (index : Nat) : String :=
  kind.word ++ "_" ++ Text.numeral index

variable {σ : Type} [WordSource σ]

def indexSize : Nat := 8

/-- Whether `count` names can be drawn; all `total` indices have to be held for that. -/
def check (kind : EntityKind) (count total : Nat) : Except Failure Unit := do
  (checkCount kind.word count total).mapError Failure.refused
  (Fault.checkMemory indexSize total).mapError Failure.fault

/-- `count` different names out of `total`. Nothing is drawn for a count that does not fit. -/
def draw (kind : EntityKind) (count total : Nat) (s : σ) : Except Failure (List String) × σ :=
  match check kind count total with
  | .error why => (.error why, s)
  | .ok () =>
    let (swaps, s) := Shuffle.draw count total s
    (.ok ((Shuffle.chosen count total swaps).map (name kind)), s)

end QueryWorkload.Names
