import QueryWorkload.Random.Draw

set_option autoImplicit false

namespace QueryWorkload.Shuffle

/-- A chunk covers the places `first, …, first + places - 1`; `bound` is the product of their ranges. -/
structure Chunk where
  first : Nat
  places : Nat
  bound : Nat
  deriving DecidableEq, Repr

def Chunk.grow (first : Nat) : Nat → Nat → Nat → Chunk
  | 0, places, bound => ⟨first, places, bound⟩
  | fuel + 1, places, bound =>
    let next := bound * (first + places + 1)
    if next < UInt32.size then grow first fuel (places + 1) next else ⟨first, places, bound⟩

/-- The longest chunk that starts at a place. No chunk covers more than twelve places. -/
def Chunk.at (first : Nat) : Chunk :=
  grow first 32 1 (first + 1)

def Chunk.swaps (c : Chunk) (wanted value : Nat) : List Nat :=
  go c.first c.places wanted value
where
  go (place : Nat) : Nat → Nat → Nat → List Nat
    | _, 0, _ => []
    | 0, _, _ => []
    | 1, _, value => [value]
    | places + 2, wanted + 1, value =>
      value % (place + 1) :: go (place + 1) (places + 1) wanted (value / (place + 1))

variable {σ : Type} [WordSource σ]

/-- The swaps of the places `place, …, total - 1`. Each chunk covers one place at least. -/
def drawFrom : Nat → Nat → Nat → σ → List Nat × σ
  | 0, _, _, s => ([], s)
  | fuel + 1, place, total, s =>
    if total ≤ place then ([], s)
    else
      let c := Chunk.at place
      let (value, s) := Draw.below32 c.bound s
      let here := c.swaps (total - place) value
      let (later, s) := drawFrom fuel (place + c.places) total s
      (here ++ later, s)

def draw (count total : Nat) (s : σ) : List Nat × σ :=
  if total = count then
    let (later, s) := drawFrom count 1 total s
    (if count = 0 then [] else 0 :: later, s)
  else drawFrom count (total - count) total s

def apply (indices : Array Nat) (place : Nat) : List Nat → Array Nat
  | [] => indices
  | j :: rest => apply (indices.swapIfInBounds place j) (place + 1) rest

def chosen (count total : Nat) (swaps : List Nat) : List Nat :=
  ((apply (Array.range total) (total - count) swaps).extract (total - count) total).toList

end QueryWorkload.Shuffle
