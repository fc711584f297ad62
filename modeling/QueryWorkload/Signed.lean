import QueryWorkload.Text.Numeral

set_option autoImplicit false

namespace QueryWorkload.Signed

/-- A 64-bit number read as a signed one. -/
def ofNat (n : Nat) : Int :=
  Int.bmod n UInt64.size

def saturatingAdd (a b : Int) : Int :=
  max (-Text.signedLimit) (min (a + b) (Text.signedLimit - 1))

end QueryWorkload.Signed
