import QueryWorkload.Random.Source

set_option autoImplicit false

namespace QueryWorkload

structure ChaCha where
  key : Vector UInt32 8
  position : Nat
  deriving DecidableEq, Repr

namespace ChaCha

abbrev Block := Vector UInt32 16

def rotateLeft (x : UInt32) (n : UInt32) : UInt32 :=
  (x <<< n) ||| (x >>> (32 - n))

def quarterRound (v : Block) (a b c d : Fin 16) : Block :=
  let xa := v[a] + v[b]
  let xd := rotateLeft (v[d] ^^^ xa) 16
  let xc := v[c] + xd
  let xb := rotateLeft (v[b] ^^^ xc) 12
  let xa := xa + xb
  let xd := rotateLeft (xd ^^^ xa) 8
  let xc := xc + xd
  let xb := rotateLeft (xb ^^^ xc) 7
  (((v.set a xa).set b xb).set c xc).set d xd

def doubleRound (v : Block) : Block :=
  let v := quarterRound v 0 4 8 12
  let v := quarterRound v 1 5 9 13
  let v := quarterRound v 2 6 10 14
  let v := quarterRound v 3 7 11 15
  let v := quarterRound v 0 5 10 15
  let v := quarterRound v 1 6 11 12
  let v := quarterRound v 2 7 8 13
  quarterRound v 3 4 9 14

/-- Constants, key, a 64-bit block number with its low word first, and two zero words. -/
def start (key : Vector UInt32 8) (number : UInt64) : Block :=
  #v[0x61707865, 0x3320646e, 0x79622d32, 0x6b206574,
    key[0], key[1], key[2], key[3], key[4], key[5], key[6], key[7],
    number.toUInt32, (number >>> 32).toUInt32, 0, 0]

def block (key : Vector UInt32 8) (number : UInt64) : Block :=
  let v := start key number
  let w := (List.range 6).foldl (fun w _ => doubleRound w) v
  Vector.zipWith (· + ·) w v

def word (key : Vector UInt32 8) (position : Nat) : UInt32 :=
  (block key (position / 16).toUInt64).get ⟨position % 16, Nat.mod_lt _ (by decide)⟩

instance : WordSource ChaCha where
  next32 s := (word s.key s.position, { s with position := s.position + 1 })
  next64 s :=
    let low := (word s.key s.position).toUInt64
    let high := (word s.key (s.position + 1)).toUInt64
    (low ||| (high <<< 32), { s with position := s.position + 2 })

def rotateRight (x : UInt32) (n : UInt32) : UInt32 :=
  (x >>> n) ||| (x <<< ((32 - n) % 32))

def seedStep (state : UInt64) : UInt64 :=
  state * 6364136223846793005 + 11634580027462260723

def seedWord (state : UInt64) : UInt32 :=
  rotateRight (((state >>> 18) ^^^ state) >>> 27).toUInt32 (state >>> 59).toUInt32

def seedStates (seed : UInt64) (n : Nat) : UInt64 :=
  n.repeat seedStep seed

def ofSeed (seed : UInt64) : ChaCha :=
  { key := Vector.ofFn fun i : Fin 8 => seedWord (seedStates seed (i + 1)), position := 0 }

end ChaCha

end QueryWorkload
