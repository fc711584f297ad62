set_option autoImplicit false

namespace QueryWorkload

class WordSource (σ : Type) where
  next32 : σ → UInt32 × σ
  next64 : σ → UInt64 × σ

/-- Words that are given out in turn, over and over; an empty list gives zeros. -/
structure Script where
  words : Array UInt64
  position : Nat
  deriving DecidableEq, Repr

namespace Script

def ofList (words : List UInt64) : Script :=
  ⟨words.toArray, 0⟩

def next (s : Script) : UInt64 × Script :=
  (s.words.getD (s.position % s.words.size) 0, { s with position := s.position + 1 })

/-- A short word is the low half of a long one. -/
instance : WordSource Script where
  next32 s := (s.next.1.toUInt32, s.next.2)
  next64 := next

end Script

end QueryWorkload
