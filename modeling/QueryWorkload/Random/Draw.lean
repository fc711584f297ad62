import QueryWorkload.Random.Source

set_option autoImplicit false

namespace QueryWorkload.Draw

def whole (size word bound : Nat) : Nat :=
  word * bound / size

def rest (size word bound : Nat) : Nat :=
  word * bound % size

/-- A second word is drawn when the rest of the first product is within `bound` of the next one. -/
def isOpen (size word bound : Nat) : Bool :=
  size < bound + rest size word bound

def carried (size first second bound : Nat) : Nat :=
  whole size first bound +
    (if size ≤ rest size first bound + whole size second bound then 1 else 0)

variable {σ : Type} [WordSource σ]

def below32 (bound : Nat) (s : σ) : Nat × σ :=
  let (a, s) := WordSource.next32 s
  if isOpen UInt32.size a.toNat bound then
    let (b, s) := WordSource.next32 s
    (carried UInt32.size a.toNat b.toNat bound, s)
  else (whole UInt32.size a.toNat bound, s)

def below64 (bound : Nat) (s : σ) : Nat × σ :=
  let (a, s) := WordSource.next64 s
  if isOpen UInt64.size a.toNat bound then
    let (b, s) := WordSource.next64 s
    (carried UInt64.size a.toNat b.toNat bound, s)
  else (whole UInt64.size a.toNat bound, s)

end QueryWorkload.Draw
