import QueryWorkload.Duration
import QueryWorkload.Text.Blank

set_option autoImplicit false

namespace QueryWorkload

open Text

namespace Span

inductive Unit where
  | days
  | hours
  | minutes
  | seconds
  deriving DecidableEq, Repr

def Unit.inSeconds : Unit → Int
  | .days => 86400
  | .hours => 3600
  | .minutes => 60
  | .seconds => 1

def Unit.name : Unit → String
  | .days => "days"
  | .hours => "hours"
  | .minutes => "minutes"
  | .seconds => "seconds"

def Unit.ofLetter? : Char → Option Unit
  | 'd' => some .days
  | 'h' => some .hours
  | 'm' => some .minutes
  | 's' => some .seconds
  | _ => none

inductive Error where
  | empty
  | badNumber (unit : Option Unit) (text : String) (cause : NumeralError)
  | tooLarge (text : String)
  | notPositive (text : String)
  deriving DecidableEq, Repr

def Error.message : Error → String
  | .empty => "Empty duration string"
  | .badNumber unit text cause =>
    "Invalid " ++ (unit.map Unit.name).getD "duration" ++ " value: " ++ text ++ ": " ++ cause.message
  | .tooLarge text => "Duration too large: " ++ text
  | .notPositive text => "Duration must be positive: " ++ text

def split (s : List Char) : List Char × Option Unit :=
  match s.getLast?.bind Unit.ofLetter? with
  | some u => (s.dropLast, some u)
  | none => (s, none)

def fitsInt64 (n : Int) : Bool :=
  -(signedLimit : Int) ≤ n && n < signedLimit

/-- The seconds a text stands for; both the number and the seconds are signed 64-bit integers. -/
def readSeconds (text : String) : Except Error Int :=
  let s := trim text.toList
  if s = [] then .error .empty
  else
    let (number, unit) := split s
    match readInt64 number with
    | .error cause => .error (.badNumber unit (String.ofList number) cause)
    | .ok n =>
      let total := n * (unit.map Unit.inSeconds).getD 1
      if fitsInt64 total then .ok total else .error (.tooLarge (String.ofList s))

def read (text : String) : Except Error Duration :=
  match readSeconds text with
  | .error e => .error e
  | .ok s => if 0 < s then .ok (Duration.ofSeconds s.toNat) else .error (.notPositive text)

end Span

end QueryWorkload
