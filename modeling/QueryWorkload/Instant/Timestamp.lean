import QueryWorkload.Instant
import QueryWorkload.Text.Blank

set_option autoImplicit false

namespace QueryWorkload

open Text

namespace Timestamp

def valueOf (digits : List Char) : Nat :=
  digits.foldl (fun n c => n * 10 + (c.toNat - '0'.toNat)) 0

def number (most : Nat) (s : List Char) : Option (Nat × List Char) :=
  let taken := (s.take most).takeWhile Char.isDigit
  if taken = [] then none else some (valueOf taken, s.drop taken.length)

/-- As many digits as there are, as long as their value is a signed number of 64 bits. -/
def longNumber (s : List Char) : Option (Nat × List Char) :=
  (number s.length s).filter fun r => r.1 < signedLimit

/-- A year has at most four digits, or a sign and any number of digits. -/
def year (s : List Char) : Option (Int × List Char) :=
  match trimStart s with
  | '-' :: rest => (longNumber rest).map fun r => (-(r.1 : Int), r.2)
  | '+' :: rest => (longNumber rest).map fun r => ((r.1 : Int), r.2)
  | s => (number 4 s).map fun r => ((r.1 : Int), r.2)

def field (low high : Nat) (s : List Char) : Option (Nat × List Char) :=
  (number 2 (trimStart s)).filter fun r => low ≤ r.1 && r.1 ≤ high

def mark (c : Char) (s : List Char) : Option (List Char) :=
  match trimStart s with
  | d :: rest => if d = c then some rest else none
  | [] => none

def separator : List Char → Option (List Char)
  | 'T' :: rest => some rest
  | 't' :: rest => some rest
  | ' ' :: rest => some rest
  | _ => none

/-- Nanoseconds from the digits after a point; what follows the ninth digit is dropped. -/
def fraction : List Char → Option (Nat × List Char)
  | '.' :: rest =>
    let digits := rest.takeWhile Char.isDigit
    if digits = [] then none
    else some (valueOf ((digits ++ List.replicate 9 '0').take 9), rest.dropWhile Char.isDigit)
  | s => some (0, s)

def twoDigits : List Char → Option (Nat × List Char)
  | a :: b :: rest => do some ((← digit? a) * 10 + (← digit? b), rest)
  | _ => none

/-- Hours, any colons and blanks, and minutes below sixty, in seconds. -/
def offsetDigits (s : List Char) : Option (Int × List Char) := do
  let (h, s) ← twoDigits s
  let (m, s) ← twoDigits (s.dropWhile fun c => c = ':' || isBlank c)
  if m < 60 then some ((h * 3600 + m * 60 : Nat), s) else none

/-- `Z`, `UTC`, or a sign and digits; the minus sign U+2212 counts as a sign too. -/
def offset (s : List Char) : Option (Int × List Char) :=
  match trimStart s with
  | [] => none
  | c :: rest =>
    if (c = 'U' || c = 'u') && (rest.take 2 = ['T', 'C'] || rest.take 2 = ['t', 'c'] ||
        rest.take 2 = ['T', 'c'] || rest.take 2 = ['t', 'C']) then some (0, rest.drop 2)
    else if c = 'Z' || c = 'z' then some (0, rest)
    else if c = '+' then offsetDigits rest
    else if c = '-' || c = '\u2212' then (offsetDigits rest).map fun r => (-r.1, r.2)
    else none

def instant? (date : Date) (hour minute second nanos : Nat) (offset : Int) : Option Instant :=
  let midnight := date.toDays * 86400
  let time := hour * 3600 + minute * 60 + (if second = 60 then 59 else second)
  let t : Instant :=
    { seconds := midnight + time - offset
      nanos := if second = 60 then nanos + Instant.second else nanos }
  if date.isValid && Instant.inCalendar ⟨midnight, 0⟩ && -86400 < offset && offset < 86400 &&
      t.inCalendar then some t
  else none

def read (text : String) : Option Instant := do
  let s := text.toList
  let (y, s) ← year s
  let (m, s) ← field 1 12 (← mark '-' s)
  let (d, s) ← field 1 31 (← mark '-' s)
  let (hour, s) ← field 0 23 (← separator s)
  let (minute, s) ← field 0 59 (← mark ':' s)
  let (sec, s) ← field 0 60 (← mark ':' s)
  let (nanos, s) ← fraction s
  let (ahead, s) ← offset s
  if trimStart s = [] then instant? ⟨y, m, d⟩ hour minute sec nanos ahead else none

end Timestamp

end QueryWorkload
