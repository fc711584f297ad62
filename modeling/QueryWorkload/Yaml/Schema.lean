import QueryWorkload.Text.Numeral
import QueryWorkload.Yaml.Tag

set_option autoImplicit false

namespace QueryWorkload.Yaml.Schema

def nullTag : Tag := .ofText "tag:yaml.org,2002:null"

def flagTag : Tag := .ofText "tag:yaml.org,2002:bool"

def numberTag : Tag := .ofText "tag:yaml.org,2002:int"

def isNull (text : String) : Bool :=
  text = "null" || text = "Null" || text = "NULL" || text = "~"

def flag? (text : String) : Option Bool :=
  if text = "true" ∨ text = "True" ∨ text = "TRUE" then some true
  else if text = "false" ∨ text = "False" ∨ text = "FALSE" then some false
  else none

def digitsOf (base : Nat) (s : List Char) : Option UInt64 :=
  if s.head? = some '+' then none
  else (Text.readNat base (UInt64.size - 1) s).toOption.map Nat.toUInt64

/-- Zeros in front of a decimal make it a text. -/
def isPadded (s : List Char) : Bool :=
  1 < s.length && s.head? = some '0' && s.all Char.isDigit

def number? (text : String) : Option UInt64 :=
  let s := if text.toList.head? = some '+' then text.toList.tail else text.toList
  match s with
  | '0' :: 'x' :: rest => digitsOf 16 rest
  | '0' :: 'o' :: rest => digitsOf 8 rest
  | '0' :: 'b' :: rest => digitsOf 2 rest
  | s => if isPadded s then none else digitsOf 10 s

end QueryWorkload.Yaml.Schema
