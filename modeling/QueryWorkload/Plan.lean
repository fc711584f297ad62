import QueryWorkload.Failure

set_option autoImplicit false

namespace QueryWorkload

/-- The queries with the ids `first, …, first + count - 1`. -/
structure Plan where
  worker : Nat
  first : Nat
  count : Nat
  deriving DecidableEq, Repr

namespace Plan

def shareOf (queries workers worker : Nat) : Plan :=
  let base := queries / workers
  let extra := queries % workers
  { worker
    first := worker * base + min worker extra
    count := base + if worker < extra then 1 else 0 }

def split (queries workers : Nat) : List Plan :=
  (List.range (max workers 1)).map (shareOf queries (max workers 1))

def ids (p : Plan) : List Nat :=
  List.range' p.first p.count

def size : Nat := 24

def arrange (queries workers : Nat) : Except Fault (List Plan) := do
  Fault.checkMemory size (max workers 1)
  return split queries workers

/-- An odd number, so that different workers get different seeds. -/
def seedStep : UInt64 := 0x9E3779B97F4A7C15

def seed (base : UInt64) (worker : Nat) : UInt64 :=
  base + worker.toUInt64 * seedStep

end Plan

end QueryWorkload
