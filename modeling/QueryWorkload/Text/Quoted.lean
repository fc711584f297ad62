import QueryWorkload.Text.Hidden

set_option autoImplicit false

namespace QueryWorkload.Text

def hexNumeral (n : Nat) : List Char :=
  Nat.toDigits 16 n

/-- Quotes and backslashes, three controls and the zero by name, other hidden characters by number. -/
def escapeChar (c : Char) : List Char :=
  if c = '"' ∨ c = '\\' then ['\\', c]
  else if c = '\n' then ['\\', 'n']
  else if c = '\r' then ['\\', 'r']
  else if c = '\t' then ['\\', 't']
  else if c = '\x00' then ['\\', '0']
  else if isHidden c then ['\\', 'u', '\x7b'] ++ hexNumeral c.toNat ++ ['\x7d']
  else [c]

def quoted (s : String) : String :=
  "\"" ++ String.ofList (s.toList.flatMap escapeChar) ++ "\""

end QueryWorkload.Text
