set_option autoImplicit false

namespace QueryWorkload.Text

def digits (n : Nat) : List Char :=
  Nat.toDigits 10 n

def padLeft (fill : Char) (width : Nat) (s : List Char) : List Char :=
  List.replicate (width - s.length) fill ++ s

def numeral (n : Nat) : String :=
  String.ofList (digits n)

def signedNumeral : Int → String
  | .ofNat n => numeral n
  | .negSucc n => "-" ++ numeral (n + 1)

def zeroPadded (width n : Nat) : String :=
  String.ofList (padLeft '0' width (digits n))

def spacePadded (width n : Nat) : String :=
  String.ofList (padLeft ' ' width (digits n))

/-- `n` as the `places` digits after a decimal point, the zeros at the end left out. -/
def fraction (places n : Nat) : String :=
  String.ofList ((padLeft '0' places (digits n)).reverse.dropWhile (· == '0')).reverse

def digit? (c : Char) : Option Nat :=
  if c.isDigit then some (c.toNat - '0'.toNat) else none

def baseDigit? (base : Nat) (c : Char) : Option Nat :=
  let value :=
    if c.isDigit then some (c.toNat - '0'.toNat)
    else if 'a' ≤ c && c ≤ 'f' then some (c.toNat - 'a'.toNat + 10)
    else if 'A' ≤ c && c ≤ 'F' then some (c.toNat - 'A'.toNat + 10)
    else none
  value.filter (· < base)

inductive NumeralError where
  | empty
  | badDigit
  | tooLarge
  | tooSmall
  deriving DecidableEq, Repr

def NumeralError.message : NumeralError → String
  | .empty => "cannot parse integer from empty string"
  | .badDigit => "invalid digit found in string"
  | .tooLarge => "number too large to fit in target type"
  | .tooSmall => "number too small to fit in target type"

/-- Reads digits from the left; the first bad digit or the first step past `limit` decides. -/
def readDigits (base limit : Nat) (past : NumeralError) (acc : Nat) :
    List Char → Except NumeralError Nat
  | [] => .ok acc
  | c :: rest =>
    match baseDigit? base c with
    | none => .error .badDigit
    | some d =>
      if acc * base + d ≤ limit then readDigits base limit past (acc * base + d) rest
      else .error past

/-- One or more digits with at most one `+` in front, up to `limit`. -/
def readNat (base limit : Nat) : List Char → Except NumeralError Nat
  | [] => .error .empty
  | ['+'] => .error .badDigit
  | '+' :: rest => readDigits base limit .tooLarge 0 rest
  | s => readDigits base limit .tooLarge 0 s

def signedLimit : Nat := 9223372036854775808

def readInt64 : List Char → Except NumeralError Int
  | ['-'] => .error .badDigit
  | '-' :: rest => (readDigits 10 signedLimit .tooSmall 0 rest).map fun n => -(n : Int)
  | s => (readNat 10 (signedLimit - 1) s).map Int.ofNat

def readUInt64 (s : List Char) : Except NumeralError UInt64 :=
  (readNat 10 (UInt64.size - 1) s).map UInt64.ofNat

end QueryWorkload.Text
