import QueryWorkload.Text.Numeral
import QueryWorkload.Yaml.Cursor

set_option autoImplicit false

namespace QueryWorkload.Yaml

structure Tag where
  octets : List UInt8
  deriving DecidableEq, Repr

namespace Tag

def ofText (text : String) : Tag :=
  ⟨text.toUTF8.data.toList⟩

def ofOctets (octets : List UInt8) : Tag :=
  ⟨octets.takeWhile (· ≠ 0)⟩

def append (a b : Tag) : Tag :=
  ⟨a.octets ++ b.octets⟩

instance : Append Tag :=
  ⟨append⟩

def mark : UInt8 := 0x21

/-- The name after the exclamation mark of a document's own tag; the mark alone is its own name. -/
def localName? (t : Tag) : Option String :=
  match t.octets with
  | [] => none
  | first :: name =>
    if first ≠ mark then none
    else String.fromUTF8? ⟨(if name = [] then [mark] else name).toArray⟩

def isUriChar (verbatim : Bool) (c : Char) : Bool :=
  isWordChar c || ";/?:@&=+$.!~*'()".toList.contains c ||
    (verbatim && (c = ',' || c = '[' || c = ']'))

def octetsAfter? (n : UInt8) : Option Nat :=
  if n < 0x80 then some 0
  else if n / 32 = 6 then some 1
  else if n / 16 = 14 then some 2
  else if n / 8 = 30 then some 3
  else none

def uriOctet : List Char → Option (UInt8 × List Char)
  | '%' :: a :: b :: rest => do
    some ((← Text.baseDigit? 16 a).toUInt8 * 16 + (← Text.baseDigit? 16 b).toUInt8, rest)
  | _ => none

def laterOctets : Nat → List Char → Option (List UInt8 × List Char)
  | 0, s => some ([], s)
  | n + 1, s => do
    let (octet, s) ← uriOctet s
    if octet / 64 ≠ 2 then none
    else
      let (later, s) ← laterOctets n s
      some (octet :: later, s)

def uriEscape (s : List Char) : Option (List UInt8 × List Char) := do
  let (first, s) ← uriOctet s
  let (later, s) ← laterOctets (← octetsAfter? first) s
  some (first :: later, s)

def uriFrom (verbatim : Bool) : Nat → List Char → Option (List UInt8 × List Char)
  | 0, _ => none
  | fuel + 1, s =>
    match s with
    | '%' :: _ => do
      let (here, s) ← uriEscape s
      let (later, s) ← uriFrom verbatim fuel s
      some (here ++ later, s)
    | c :: rest =>
      if isUriChar verbatim c then
        (uriFrom verbatim fuel rest).map fun r => (c.toUInt8 :: r.1, r.2)
      else some ([], s)
    | [] => some ([], [])

def uri (verbatim : Bool) (s : List Char) : Option (List UInt8 × List Char) :=
  uriFrom verbatim (s.length + 1) s

def someUri (verbatim : Bool) (s : List Char) : Option (Tag × List Char) := do
  let (octets, s) ← uri verbatim s
  if octets = [] then none else some (ofOctets octets, s)

end Tag

end QueryWorkload.Yaml
