import QueryWorkload.Yaml.Scalar
import QueryWorkload.Yaml.Tag

set_option autoImplicit false

namespace QueryWorkload.Yaml

inductive Token where
  | streamEnd
  | versionDirective (major minor : Nat)
  | tagDirective (handle : String) (start : Tag)
  | documentStart
  | documentEnd
  | blockSequenceStart
  | blockMappingStart
  | blockEnd
  | flowSequenceStart
  | flowSequenceEnd
  | flowMappingStart
  | flowMappingEnd
  | blockEntry
  | flowEntry
  | key
  | value
  | alias (name : String)
  | anchor (name : String)
  | tag (handle : String) (rest : Tag)
  | scalar (style : Style) (text : String)
  deriving DecidableEq, Repr

namespace Token

def handle (s : List Char) : List Char × List Char :=
  let word := (s.drop 1).takeWhile isWordChar
  match s.drop (word.length + 1) with
  | '!' :: rest => ('!' :: word ++ ['!'], rest)
  | rest => ('!' :: word, rest)

def isNamedHandle (h : List Char) : Bool :=
  2 ≤ h.length && h.getLast? = some '!'

def tagBody (s : List Char) : Option (Token × List Char) :=
  match s.drop 1 with
  | '<' :: s => do
    let (t, s) ← Tag.someUri true s
    match s with
    | '>' :: s => some (.tag "" t, s)
    | _ => none
  | _ =>
    let (h, s) := handle s
    if isNamedHandle h then do
      let (t, s) ← Tag.someUri false s
      some (.tag (String.ofList h) t, s)
    else do
      let (more, s) ← Tag.uri false s
      let t := Tag.ofOctets ((h.drop 1).map Char.toUInt8 ++ more)
      if t.octets = [] then some (.tag "" ⟨[Tag.mark]⟩, s) else some (.tag "!" t, s)

def readTag (flow : Bool) (c : Cursor) : Option (Token × Cursor) := do
  let (t, rest) ← tagBody c.rest
  if atGap rest || (flow && rest.head? = some ',') then some (t, c.advanceTo rest) else none

def readName (c : Cursor) : Option (String × Cursor) :=
  let name := (c.rest.drop 1).takeWhile isWordChar
  let after := c.rest.drop (name.length + 1)
  let ends := atGap after || after.head?.any fun d => "?:,]\x7d%@".toList.contains d || d = '\x60'
  if name ≠ [] && ends then some (String.ofList name, c.advanceTo after) else none

def versionNumber (s : List Char) : Option (Nat × List Char) :=
  let digits := s.takeWhile Char.isDigit
  if digits = [] ∨ 9 < digits.length then none
  else some (digits.foldl (fun n d => n * 10 + (d.toNat - '0'.toNat)) 0, s.dropWhile Char.isDigit)

def versionValue (s : List Char) : Option (Token × List Char) := do
  let (major, s) ← versionNumber s
  match s with
  | '.' :: s =>
    let (minor, s) ← versionNumber s
    some (.versionDirective major minor, s)
  | _ => none

def tagValue (s : List Char) : Option (Token × List Char) :=
  if s.head? ≠ some '!' then none
  else
    let (h, s) := handle s
    if h ≠ ['!'] && !isNamedHandle h then none
    else if !(s.head?.any isWhite) then none
    else do
      let (start, s) ← Tag.someUri true (s.dropWhile isWhite)
      if atGap s then some (.tagDirective (String.ofList h) start, s) else none

def readDirective (c : Cursor) : Option (Token × Cursor) := do
  let name := (c.rest.drop 1).takeWhile isWordChar
  let after := c.rest.drop (name.length + 1)
  if !atGap after then none
  else
    let value := after.dropWhile isWhite
    let (t, rest) ←
      if name = "YAML".toList then versionValue value
      else if name = "TAG".toList then tagValue value
      else none
    let c := (c.advanceTo rest).skipComment
    if atLineEnd c.rest then some (t, c.skipBreak) else none

end Token

end QueryWorkload.Yaml
