import QueryWorkload.Text.Numeral
import QueryWorkload.Yaml.Cursor

set_option autoImplicit false

namespace QueryWorkload.Yaml

inductive Style where
  | plain
  | singleQuoted
  | doubleQuoted
  | literal
  | folded
  deriving DecidableEq, Repr

namespace Scalar

def isFlowMark (c : Char) : Bool :=
  c = ',' || c = '[' || c = ']' || c = '\x7b' || c = '\x7d'

/-- A word of a plain scalar. In a flow collection a colon must not stand before an indicator. -/
def plainWord (flow : Bool) : List Char → Option (List Char)
  | [] => some []
  | c :: rest =>
    if isGap c then some []
    else if flow && c = ':' && rest.head?.any (fun d => isFlowMark d || d = '?') then none
    else if c = ':' && atGap rest then some []
    else if flow && isFlowMark c then some []
    else (plainWord flow rest).map (c :: ·)

/-- A plain scalar after the words `acc` and a gap; `true` if it ends in a new line. -/
def plainFrom (flow : Bool) (edge : Nat) :
    Nat → List Char → Gap → Cursor → Option (List Char × Bool × Cursor)
  | 0, _, _, _ => none
  | fuel + 1, acc, g, c =>
    if c.atDocumentMark || c.rest.head? = some '#' then some (acc, g.broken, c)
    else do
      let word ← plainWord flow c.rest
      if word = [] then some (acc, g.broken, c)
      else
        let acc := acc ++ g.text ++ word
        let c := c.advance word.length
        if (c.rest.head?.map isGap).getD false then
          let (g, c) ← ({} : Gap).take edge c
          if !flow && c.column < edge then some (acc, g.broken, c)
          else plainFrom flow edge fuel acc g c
        else some (acc, false, c)

def plain (flow : Bool) (edge : Nat) (c : Cursor) : Option (List Char × Bool × Cursor) :=
  plainFrom flow edge (c.rest.length + 1) [] {} c

structure Run where
  text : List Char
  rest : List Char
  escaped : Bool := false
  deriving Repr

def Run.push (c : Char) (r : Run) : Run :=
  { r with text := c :: r.text }

def singleRun : List Char → Run
  | [] => { text := [], rest := [] }
  | '\'' :: '\'' :: rest => (singleRun rest).push '\''
  | c :: rest =>
    if isGap c || c = '\'' then { text := [], rest := c :: rest } else (singleRun rest).push c

def shortEscape? : Char → Option Char
  | '0' => some '\x00'
  | 'a' => some '\x07'
  | 'b' => some '\x08'
  | 't' => some '\t'
  | '\t' => some '\t'
  | 'n' => some '\n'
  | 'v' => some '\x0b'
  | 'f' => some '\x0c'
  | 'r' => some '\r'
  | 'e' => some '\x1b'
  | ' ' => some ' '
  | '"' => some '"'
  | '/' => some '/'
  | '\\' => some '\\'
  | 'N' => some '\u0085'
  | '_' => some '\u00a0'
  | 'L' => some '\u2028'
  | 'P' => some '\u2029'
  | _ => none

def escapeDigits? : Char → Option Nat
  | 'x' => some 2
  | 'u' => some 4
  | 'U' => some 8
  | _ => none

def charOf? (n : Nat) : Option Char :=
  if n.isValidChar then some (Char.ofNat n) else none

def unescape : List Char → Option (Char × List Char)
  | [] => none
  | e :: rest =>
    match escapeDigits? e with
    | none => (shortEscape? e).map fun c => (c, rest)
    | some n => do
      let digits ← (rest.take n).mapM (Text.baseDigit? 16)
      if digits.length < n then none
      else
        let c ← charOf? (digits.foldl (fun v d => v * 16 + d) 0)
        some (c, rest.drop n)

def doubleRun : Nat → List Char → Option Run
  | 0, _ => none
  | _ + 1, [] => some { text := [], rest := [] }
  | fuel + 1, '\\' :: rest =>
    if (rest.head?.map isBreak).getD false then some { text := [], rest, escaped := true }
    else do
      let (c, rest) ← unescape rest
      (doubleRun fuel rest).map (·.push c)
  | fuel + 1, c :: rest =>
    if isGap c || c = '"' then some { text := [], rest := c :: rest }
    else (doubleRun fuel rest).map (·.push c)

def quote (single : Bool) : Char :=
  if single then '\'' else '"'

def quotedFrom (single : Bool) : Nat → List Char → Cursor → Option (List Char × Cursor)
  | 0, _, _ => none
  | fuel + 1, acc, c =>
    if c.atDocumentMark || c.rest.isEmpty then none
    else do
      let run ← if single then some (singleRun c.rest) else doubleRun (c.rest.length + 1) c.rest
      let acc := acc ++ run.text
      let c := c.advanceTo run.rest
      let c := if run.escaped then c.skipBreak else c
      if c.rest.head? = some (quote single) then some (acc, c.advance 1)
      else
        let (g, c) ← Gap.take 0 { broken := run.escaped, first := [] } c
        quotedFrom single fuel (acc ++ g.text) c

def quoted (single : Bool) (c : Cursor) : Option (List Char × Cursor) :=
  quotedFrom single (c.rest.length + 1) [] (c.advance 1)

inductive Chomp where
  | strip
  | clip
  | keep
  deriving DecidableEq, Repr

def chomp? : Char → Option Chomp
  | '+' => some .keep
  | '-' => some .strip
  | _ => none

def indentDigit : List Char → Option (Nat × List Char)
  | '0' :: _ => none
  | c :: rest => some (match Text.digit? c with
    | some d => (d, rest)
    | none => (0, c :: rest))
  | [] => some (0, [])

def blockHeader : List Char → Option (Chomp × Nat × List Char)
  | [] => some (.clip, 0, [])
  | c :: rest =>
    match chomp? c with
    | some how => (indentDigit rest).map fun r => (how, r.1, r.2)
    | none => do
      let (n, rest) ← indentDigit (c :: rest)
      if n = 0 then some (.clip, 0, rest)
      else
        match rest with
        | [] => some (.clip, n, [])
        | d :: later =>
          match chomp? d with
          | some how => some (how, n, later)
          | none => some (.clip, n, d :: later)

def skipIndent (indent : Nat) (c : Cursor) : Cursor :=
  let spaces := (c.rest.takeWhile (· = ' ')).length
  c.advance (if indent = 0 then spaces else min spaces (indent - c.column))

def blockBreaks (indent : Nat) : Nat → Nat → List Char → Cursor → Option (Nat × List Char × Cursor)
  | 0, _, _, _ => none
  | fuel + 1, widest, breaks, c =>
    let c := skipIndent indent c
    let widest := max widest c.column
    match c.rest with
    | [] => some (widest, breaks, c)
    | d :: _ =>
      if (indent = 0 ∨ c.column < indent) ∧ d = '\t' then none
      else if isBreak d then
        blockBreaks indent fuel widest (breaks ++ c.takeBreak.1) c.skipBreak
      else some (widest, breaks, c)

structure Block where
  text : List Char := []
  first : List Char := []
  later : List Char := []
  indented : Bool := false
  deriving Repr

/-- The breaks before a new line. In folded text two lines that are not indented are joined. -/
def Block.joint (b : Block) (folded indented : Bool) : List Char :=
  if folded && b.first = ['\n'] && !b.indented && !indented then
    (if b.later = [] then [' '] else b.later)
  else b.first ++ b.later

def blockLines (folded : Bool) (indent : Nat) : Nat → Block → Cursor → Option (Block × Cursor)
  | 0, _, _ => none
  | fuel + 1, b, c =>
    if c.column ≠ indent then some (b, c)
    else
      match c.rest with
      | [] => some (b, c)
      | d :: _ => do
        let line := c.rest.takeWhile fun d => !isBreak d
        let text := b.text ++ b.joint folded (isWhite d) ++ line
        let c := c.advance line.length
        let (first, c) := c.takeBreak
        let (_, later, c) ← blockBreaks indent (c.rest.length + 1) 0 [] c
        blockLines folded indent fuel { text, first, later, indented := isWhite d } c

def Block.chomped (b : Block) : Chomp → List Char
  | .strip => b.text
  | .clip => b.text ++ b.first
  | .keep => b.text ++ b.first ++ b.later

def block (folded : Bool) (outer : Int) (c : Cursor) : Option (List Char × Cursor) := do
  let c := c.advance 1
  let (how, extra, rest) ← blockHeader c.rest
  let c := (c.advanceTo rest).skipComment
  if !atLineEnd c.rest then none
  else
    let c := c.skipBreak
    let given := if extra = 0 then 0 else (max outer 0).toNat + extra
    let (widest, later, c) ← blockBreaks given (c.rest.length + 1) 0 [] c
    let indent := if given = 0 then max (max widest (outer + 1).toNat) 1 else given
    let (b, c) ← blockLines folded indent (c.rest.length + 1) { later } c
    some (b.chomped how, c)

end Scalar

end QueryWorkload.Yaml
