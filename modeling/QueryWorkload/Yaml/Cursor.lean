set_option autoImplicit false

namespace QueryWorkload.Yaml

def isWhite (c : Char) : Bool :=
  c = ' ' || c = '\t'

/-- Line feed, carriage return, next line, and the line and paragraph separators. -/
def isBreak (c : Char) : Bool :=
  c = '\n' || c = '\r' || c = '\u0085' || c = '\u2028' || c = '\u2029'

def isGap (c : Char) : Bool :=
  isWhite c || isBreak c

def isWordChar (c : Char) : Bool :=
  c.isAlphanum || c = '_' || c = '-'

def isAllowed (c : Char) : Bool :=
  let n := c.toNat
  n == 0x09 || n == 0x0A || n == 0x0D || (0x20 ≤ n && n ≤ 0x7E) || n == 0x85 ||
    (0xA0 ≤ n && n ≤ 0xD7FF) || (0xE000 ≤ n && n ≤ 0xFFFD) || 0x10000 ≤ n

def atGap : List Char → Bool
  | [] => true
  | c :: _ => isGap c

def atLineEnd : List Char → Bool
  | [] => true
  | c :: _ => isBreak c

def octets (s : List Char) : Nat :=
  s.foldl (fun n c => n + c.utf8Size) 0

structure Cursor where
  rest : List Char
  index : Nat
  line : Nat
  column : Nat
  deriving Repr

namespace Cursor

def ofText (s : List Char) : Cursor :=
  ⟨s, 0, 0, 0⟩

def advance (c : Cursor) (n : Nat) : Cursor :=
  { c with
    rest := c.rest.drop n
    index := c.index + octets (c.rest.take n)
    column := c.column + n }

def advanceTo (c : Cursor) (rest : List Char) : Cursor :=
  c.advance (c.rest.length - rest.length)

def skipWhile (p : Char → Bool) (c : Cursor) : Cursor :=
  c.advance (c.rest.takeWhile p).length

def skipComment (c : Cursor) : Cursor :=
  let c := c.skipWhile isWhite
  match c.rest with
  | '#' :: _ => c.skipWhile fun d => !isBreak d
  | _ => c

def takeBreak (c : Cursor) : List Char × Cursor :=
  match c.rest with
  | '\r' :: '\n' :: rest => (['\n'], ⟨rest, c.index + 2, c.line + 1, 0⟩)
  | d :: rest =>
    if isBreak d then
      ([if d = '\u2028' ∨ d = '\u2029' then d else '\n'], ⟨rest, c.index + d.utf8Size, c.line + 1, 0⟩)
    else ([], c)
  | [] => ([], c)

def skipBreak (c : Cursor) : Cursor :=
  c.takeBreak.2

def atMark (c : Cursor) (d : Char) : Bool :=
  c.column = 0 && c.rest.take 3 = [d, d, d] && atGap (c.rest.drop 3)

def atDocumentMark (c : Cursor) : Bool :=
  c.atMark '-' || c.atMark '.'

end Cursor

/-- The text that two lines are joined with: a single plain break becomes a space. -/
def foldBreaks (first later : List Char) : List Char :=
  if first = ['\n'] then (if later = [] then [' '] else later) else first ++ later

structure Gap where
  white : List Char := []
  first : List Char := []
  later : List Char := []
  broken : Bool := false
  deriving Repr

namespace Gap

def text (g : Gap) : List Char :=
  if g.broken then foldBreaks g.first g.later else g.white

/-- The gap at a cursor. In a new line no tab may stand left of the column `edge`. -/
def takeFrom (edge : Nat) : Nat → Gap → Cursor → Option (Gap × Cursor)
  | 0, _, _ => none
  | fuel + 1, g, c =>
    match c.rest with
    | [] => some (g, c)
    | d :: _ =>
      if isWhite d then
        if g.broken ∧ c.column < edge ∧ d = '\t' then none
        else if g.broken then takeFrom edge fuel g (c.advance 1)
        else takeFrom edge fuel { g with white := g.white ++ [d] } (c.advance 1)
      else if isBreak d then
        let (b, c) := c.takeBreak
        if g.broken then takeFrom edge fuel { g with later := g.later ++ b } c
        else takeFrom edge fuel { first := b, broken := true } c
      else some (g, c)

def take (edge : Nat) (g : Gap) (c : Cursor) : Option (Gap × Cursor) :=
  takeFrom edge (c.rest.length + 1) g c

end Gap

end QueryWorkload.Yaml
