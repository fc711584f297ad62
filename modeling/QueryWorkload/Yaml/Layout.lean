import QueryWorkload.Yaml.Token

set_option autoImplicit false

namespace QueryWorkload.Yaml

/-- A place at which a node starts that may turn out to be a key. -/
structure PendingKey where
  required : Bool
  token : Nat
  index : Nat
  line : Nat
  column : Nat
  deriving Repr

structure Layout where
  cursor : Cursor
  tokens : Array Token := #[]
  /-- The column of the innermost block; `-1` outside all blocks. -/
  indent : Int := -1
  outer : List Int := []
  depth : Nat := 0
  keyAllowed : Bool := true
  /-- A pending key for each open flow collection, the innermost first, and one for the blocks. -/
  keys : List (Option PendingKey) := [none]
  deriving Repr

namespace Layout

def inFlow (l : Layout) : Bool :=
  0 < l.depth

def push (t : Token) (l : Layout) : Layout :=
  { l with tokens := l.tokens.push t }

def skip (n : Nat) (l : Layout) : Layout :=
  { l with cursor := l.cursor.advance n }

def allowKey (b : Bool) (l : Layout) : Layout :=
  { l with keyAllowed := b }

/--
White space, comments and line breaks before a token. A tab may not indent a block. A byte order mark
at the start of a line is passed over, but it takes up a column.
-/
def skipGap : Nat → Layout → Layout
  | 0, l => l
  | fuel + 1, l =>
    let c := l.cursor
    let c := if c.column = 0 && c.rest.head? = some '\ufeff' then c.advance 1 else c
    let tabs := l.inFlow || !l.keyAllowed
    let c := c.skipWhile fun d => d = ' ' || (tabs && d = '\t')
    let c := if c.rest.head? = some '#' then c.skipWhile fun d => !isBreak d else c
    if c.rest.head?.any isBreak then
      skipGap fuel { l with cursor := c.skipBreak, keyAllowed := l.keyAllowed || !l.inFlow }
    else { l with cursor := c }

/-- A key stands in one line and is not longer than 1024 octets. -/
def isStale (c : Cursor) (k : PendingKey) : Bool :=
  k.line < c.line || k.index + 1024 < c.index

def dropStaleKey (c : Cursor) : Option PendingKey → Option (Option PendingKey)
  | none => some none
  | some k =>
    if isStale c k then (if k.required then none else some none) else some (some k)

def dropStaleKeys (l : Layout) : Option Layout := do
  some { l with keys := ← l.keys.mapM (dropStaleKey l.cursor) }

def dropKey (l : Layout) : Option Layout :=
  match l.keys with
  | some k :: rest => if k.required then none else some { l with keys := none :: rest }
  | _ => some l

def saveKey (l : Layout) : Option Layout :=
  if !l.keyAllowed then some l
  else do
    let c := l.cursor
    let k : PendingKey :=
      { required := !l.inFlow && l.indent = c.column
        token := l.tokens.size
        index := c.index
        line := c.line
        column := c.column }
    let l ← l.dropKey
    some { l with keys := some k :: l.keys.tail }

def closeBlocks (column : Int) : List Int → Layout → Layout
  | [], l => l
  | i :: outer, l =>
    if column < l.indent then
      closeBlocks column outer { l.push .blockEnd with indent := i, outer }
    else l

def unroll (column : Int) (l : Layout) : Layout :=
  if l.inFlow then l else closeBlocks column l.outer l

def openBlock (column place : Nat) (t : Token) (l : Layout) : Layout :=
  if !l.inFlow && l.indent < column then
    { l with
      indent := column
      outer := l.indent :: l.outer
      tokens := l.tokens.insertIdxIfInBounds place t }
  else l

def openBlockHere (t : Token) (l : Layout) : Layout :=
  l.openBlock l.cursor.column l.tokens.size t

def indicator (n : Nat) (t : Token) (l : Layout) : Option Layout := do
  some ((← l.dropKey).skip n |>.push t)

def streamEnd (l : Layout) : Option Layout := do
  some ((← (l.unroll (-1)).dropKey).push .streamEnd)

def documentMark (t : Token) (l : Layout) : Option Layout :=
  ((l.unroll (-1)).allowKey false).indicator 3 t

def directive (l : Layout) : Option Layout := do
  let l ← (l.unroll (-1)).dropKey
  let (t, cursor) ← Token.readDirective l.cursor
  some ({ l with cursor }.allowKey false |>.push t)

def flowStart (t : Token) (l : Layout) : Option Layout := do
  let l ← l.saveKey
  some ({ l with depth := l.depth + 1, keys := none :: l.keys }.allowKey true |>.skip 1 |>.push t)

def flowEnd (t : Token) (l : Layout) : Option Layout := do
  let l ← l.dropKey
  let l := if l.inFlow then { l with depth := l.depth - 1, keys := l.keys.tail } else l
  some (l.allowKey false |>.skip 1 |>.push t)

def flowEntry (l : Layout) : Option Layout :=
  (l.allowKey true).indicator 1 .flowEntry

def blockEntry (l : Layout) : Option Layout :=
  if !l.inFlow && !l.keyAllowed then none
  else (l.openBlockHere .blockSequenceStart |>.allowKey true).indicator 1 .blockEntry

def explicitKey (l : Layout) : Option Layout :=
  if !l.inFlow && !l.keyAllowed then none
  else (l.openBlockHere .blockMappingStart |>.allowKey (!l.inFlow)).indicator 1 .key

/-- A colon makes the pending key a key; without one it ends a key that was announced. -/
def value (l : Layout) : Option Layout :=
  match l.keys with
  | some k :: rest =>
    let l := { l with keys := none :: rest, tokens := l.tokens.insertIdxIfInBounds k.token .key }
    some (l.openBlock k.column k.token .blockMappingStart |>.allowKey false |>.skip 1 |>.push .value)
  | _ =>
    if !l.inFlow && !l.keyAllowed then none
    else
      some (l.openBlockHere .blockMappingStart |>.allowKey (!l.inFlow) |>.skip 1 |>.push .value)

def property (read : Cursor → Option (Token × Cursor)) (l : Layout) : Option Layout := do
  let l ← l.saveKey
  let (t, cursor) ← read l.cursor
  some ({ l with cursor }.allowKey false |>.push t)

def named (t : String → Token) (c : Cursor) : Option (Token × Cursor) :=
  (Token.readName c).map fun r => (t r.1, r.2)

def quotedScalar (single : Bool) (c : Cursor) : Option (Token × Cursor) :=
  (Scalar.quoted single c).map fun r =>
    (.scalar (if single then .singleQuoted else .doubleQuoted) (String.ofList r.1), r.2)

def blockScalar (folded : Bool) (l : Layout) : Option Layout := do
  let l ← l.dropKey
  let (text, cursor) ← Scalar.block folded l.indent l.cursor
  let t := Token.scalar (if folded then .folded else .literal) (String.ofList text)
  some ({ l with cursor }.allowKey true |>.push t)

def plainScalar (l : Layout) : Option Layout := do
  let l ← l.saveKey
  let (text, newLine, cursor) ← Scalar.plain l.inFlow (l.indent + 1).toNat l.cursor
  some ({ l with cursor }.allowKey newLine |>.push (.scalar .plain (String.ofList text)))

def startsPlain (flow : Bool) (c : Char) (rest : List Char) : Bool :=
  if c = '-' then !(rest.head?.any isWhite)
  else if c = '?' || c = ':' then !flow && !atGap rest
  else !(isGap c || ",[]\x7b\x7d#&*!|>'\"%@".toList.contains c || c = '\x60')

def dispatch (l : Layout) : Option Layout :=
  let c := l.cursor
  match c.rest with
  | [] => l.streamEnd
  | d :: rest =>
    if c.column = 0 && d = '%' then l.directive
    else if c.atMark '-' then l.documentMark .documentStart
    else if c.atMark '.' then l.documentMark .documentEnd
    else if d = '[' then l.flowStart .flowSequenceStart
    else if d = '\x7b' then l.flowStart .flowMappingStart
    else if d = ']' then l.flowEnd .flowSequenceEnd
    else if d = '\x7d' then l.flowEnd .flowMappingEnd
    else if d = ',' then l.flowEntry
    else if d = '-' && atGap rest then l.blockEntry
    else if d = '?' && (l.inFlow || atGap rest) then l.explicitKey
    else if d = ':' && (l.inFlow || atGap rest) then l.value
    else if d = '*' then l.property (named .alias)
    else if d = '&' then l.property (named .anchor)
    else if d = '!' then l.property (Token.readTag l.inFlow)
    else if d = '|' && !l.inFlow then l.blockScalar false
    else if d = '>' && !l.inFlow then l.blockScalar true
    else if d = '\'' then l.property (quotedScalar true)
    else if d = '"' then l.property (quotedScalar false)
    else if startsPlain l.inFlow d rest then l.plainScalar
    else none

def step (l : Layout) : Option Layout := do
  let l ← (l.skipGap (l.cursor.rest.length + 1)).dropStaleKeys
  (l.unroll l.cursor.column).dispatch

def run : Nat → Layout → Option (List Token)
  | 0, _ => none
  | fuel + 1, l => do
    let l ← l.step
    if l.tokens.back? = some .streamEnd then some l.tokens.toList else run fuel l

end Layout

def tokens (text : String) : Option (List Token) :=
  let s := text.toList
  if s.all isAllowed then Layout.run (s.length + 2) { cursor := .ofText s } else none

end QueryWorkload.Yaml
