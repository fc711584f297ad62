import QueryWorkload.Signed

set_option autoImplicit false

namespace QueryWorkload.Signed

theorem ofNat_eq {n : Nat} (small : n < UInt64.size) :
    ofNat n = if Text.signedLimit ≤ n then (n : Int) - UInt64.size else n := by
  have kept : (n : Int) % (UInt64.size : Int) = n :=
    Int.emod_eq_of_lt (Int.natCast_nonneg n) (Int.ofNat_lt.2 small)
  have half : ((UInt64.size : Int) + 1) / 2 = Text.signedLimit := by decide
  unfold ofNat
  rw [Int.bmod_def, kept, half]
  split <;> split <;> omega

theorem ofNat_of_lt {n : Nat} (short : n < Text.signedLimit) : ofNat n = n := by
  have half : Text.signedLimit < UInt64.size := by decide
  have small := Nat.lt_trans short half
  rw [ofNat_eq small, if_neg (Nat.not_le.2 short)]

theorem saturatingAdd_eq {a b : Int} (lower : -Text.signedLimit ≤ a + b)
    (upper : a + b < Text.signedLimit) : saturatingAdd a b = a + b := by
  rw [saturatingAdd, Int.min_eq_left (by omega), Int.max_eq_right lower]

end QueryWorkload.Signed
