import QueryWorkload.Json

set_option autoImplicit false

namespace QueryWorkload.Json

def isSpace (c : Char) : Bool :=
  c = ' ' || c = '\t' || c = '\n' || c = '\r'

def skipSpace (s : List Char) : List Char :=
  s.dropWhile isSpace

def hexValue (a b c d : Char) : Option Nat := do
  let a ← Text.baseDigit? 16 a
  let b ← Text.baseDigit? 16 b
  let c ← Text.baseDigit? 16 c
  let d ← Text.baseDigit? 16 d
  some (((a * 16 + b) * 16 + c) * 16 + d)

def shortEscape? : Char → Option Char
  | '"' => some '"'
  | '\\' => some '\\'
  | '/' => some '/'
  | 'b' => some '\x08'
  | 'f' => some '\x0c'
  | 'n' => some '\n'
  | 'r' => some '\r'
  | 't' => some '\t'
  | _ => none

def units : List Char → Option (List Nat × List Char)
  | [] => none
  | '"' :: rest => some ([], rest)
  | '\\' :: 'u' :: a :: b :: c :: d :: rest => do
    let (later, rest) ← units rest
    some ((← hexValue a b c d) :: later, rest)
  | '\\' :: e :: rest => do
    let (later, rest) ← units rest
    some ((← shortEscape? e).toNat :: later, rest)
  | c :: rest =>
    if c.toNat < 32 then none
    else do
      let (later, rest) ← units rest
      some (c.toNat :: later, rest)

def ofUnits : List Nat → Option (List Char)
  | [] => some []
  | n :: rest =>
    if 0xD800 ≤ n ∧ n < 0xDC00 then
      match rest with
      | m :: rest =>
        if 0xDC00 ≤ m ∧ m < 0xE000 then
          (ofUnits rest).map (Char.ofNat (0x10000 + (n - 0xD800) * 0x400 + (m - 0xDC00)) :: ·)
        else none
      | [] => none
    else if 0xDC00 ≤ n ∧ n < 0xE000 then none
    else (ofUnits rest).map (Char.ofNat n :: ·)

def string (s : List Char) : Option (String × List Char) := do
  let (units, rest) ← units s
  some (String.ofList (← ofUnits units), rest)

def someDigits (s : List Char) : Option (List Char × List Char) :=
  if s.takeWhile Char.isDigit = [] then none
  else some (s.takeWhile Char.isDigit, s.dropWhile Char.isDigit)

def whole : List Char → Option (List Char × List Char)
  | '0' :: rest => some (['0'], rest)
  | s => someDigits s

def fraction : List Char → Option (List Char × List Char)
  | '.' :: rest => (someDigits rest).map fun r => ('.' :: r.1, r.2)
  | s => some ([], s)

def exponent : List Char → Option (List Char × List Char)
  | e :: rest =>
    if e = 'e' ∨ e = 'E' then
      match rest with
      | '+' :: rest => (someDigits rest).map fun r => (e :: '+' :: r.1, r.2)
      | '-' :: rest => (someDigits rest).map fun r => (e :: '-' :: r.1, r.2)
      | _ => (someDigits rest).map fun r => (e :: r.1, r.2)
    else some ([], e :: rest)
  | [] => some ([], [])

/-- A zero with a minus sign is no integer. -/
def numberOf (negative : Bool) (whole part : List Char) : Json :=
  let n := whole.foldl (fun n c => n * 10 + (c.toNat - '0'.toNat)) 0
  if part = [] ∧ ¬ (negative ∧ n = 0) then .int (if negative then -(n : Int) else n)
  else .real (String.ofList ((if negative then ['-'] else []) ++ whole ++ part))

def number (s : List Char) : Option (Json × List Char) := do
  let (negative, s) :=
    match s with
    | '-' :: rest => (true, rest)
    | s => (false, s)
  let (digits, s) ← whole s
  let (places, s) ← fraction s
  let (power, s) ← exponent s
  some (numberOf negative digits (places ++ power), s)

mutual

/-- A value. Every second step takes a character at least. -/
def value : Nat → List Char → Option (Json × List Char)
  | 0, _ => none
  | fuel + 1, s =>
    match skipSpace s with
    | 'n' :: 'u' :: 'l' :: 'l' :: rest => some (.null, rest)
    | 't' :: 'r' :: 'u' :: 'e' :: rest => some (.bool true, rest)
    | 'f' :: 'a' :: 'l' :: 's' :: 'e' :: rest => some (.bool false, rest)
    | '"' :: rest => (string rest).map fun r => (.str r.1, r.2)
    | '[' :: rest =>
      match skipSpace rest with
      | ']' :: rest => some (.arr [], rest)
      | rest => (items fuel rest).map fun r => (.arr r.1, r.2)
    | '\x7b' :: rest =>
      match skipSpace rest with
      | '\x7d' :: rest => some (.obj [], rest)
      | rest => (members fuel rest).map fun r => (.obj r.1, r.2)
    | rest => number rest

def items : Nat → List Char → Option (List Json × List Char)
  | 0, _ => none
  | fuel + 1, s => do
    let (v, rest) ← value fuel s
    match skipSpace rest with
    | ',' :: rest =>
      let (later, rest) ← items fuel rest
      some (v :: later, rest)
    | ']' :: rest => some ([v], rest)
    | _ => none

def members : Nat → List Char → Option (List (String × Json) × List Char)
  | 0, _ => none
  | fuel + 1, s =>
    match skipSpace s with
    | '"' :: rest => do
      let (k, rest) ← string rest
      match skipSpace rest with
      | ':' :: rest =>
        let (v, rest) ← value fuel rest
        match skipSpace rest with
        | ',' :: rest =>
          let (later, rest) ← members fuel rest
          some ((k, v) :: later, rest)
        | '\x7d' :: rest => some ([(k, v)], rest)
        | _ => none
      | _ => none
    | _ => none

end

def read (text : String) : Option Json :=
  let s := text.toList
  match value (2 * s.length + 2) s with
  | some (v, rest) => if skipSpace rest = [] then some v else none
  | none => none

end QueryWorkload.Json
