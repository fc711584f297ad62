import QueryWorkload.Yaml.Layout

set_option autoImplicit false

namespace QueryWorkload.Yaml

structure Properties where
  anchor : Option Nat := none
  tag : Option Tag := none
  deriving DecidableEq, Repr

inductive Node where
  | alias (anchor : Nat)
  | scalar (properties : Properties) (style : Style) (text : String)
  | sequence (properties : Properties) (items : List Node)
  | mapping (properties : Properties) (entries : List (Node × Node))
  deriving Repr

def Node.empty : Node :=
  .scalar {} .plain ""

/-- A token whose anchor has a number in place of its name. -/
inductive Piece where
  | token (t : Token)
  | alias (anchor : Nat)
  | anchor (anchor : Nat)
  deriving DecidableEq, Repr

/--
Numbers anchors by the number of names in use. A name used again keeps its entry, so the number of its
new anchor may be given to the next name too; the later node then has it.
-/
def numberAnchors (names : List (String × Nat)) : List Token → Option (List Piece)
  | [] => some []
  | .anchor name :: rest =>
    let n := names.length
    let names := (name, n) :: names.filter (·.1 ≠ name)
    (numberAnchors names rest).map (.anchor n :: ·)
  | .alias name :: rest => do
    let n ← names.lookup name
    (numberAnchors names rest).map (.alias n :: ·)
  | t :: rest => (numberAnchors names rest).map (.token t :: ·)

abbrev Handles := List (String × Tag)

def Handles.standard : Handles :=
  [("!", .ofText "!"), ("!!", .ofText "tag:yaml.org,2002:")]

def tagOf (handles : Handles) (handle : String) (rest : Tag) : Option Tag :=
  if handle = "" then some rest else (handles.lookup handle).map (· ++ rest)

def properties (handles : Handles) : List Piece → Option (Properties × List Piece)
  | .anchor n :: .token (.tag h t) :: rest => do
    some ({ anchor := some n, tag := some (← tagOf handles h t) }, rest)
  | .token (.tag h t) :: .anchor n :: rest => do
    some ({ anchor := some n, tag := some (← tagOf handles h t) }, rest)
  | .anchor n :: rest => some ({ anchor := some n }, rest)
  | .token (.tag h t) :: rest => do some ({ tag := some (← tagOf handles h t) }, rest)
  | rest => some ({}, rest)

abbrev Rest := List Piece

def startsWith (ts : List Token) : Rest → Bool
  | .token t :: _ => ts.contains t
  | _ => false

def afterComma (first : Bool) (rest : Rest) : Option Rest :=
  if first then some rest
  else
    match rest with
    | .token .flowEntry :: rest => some rest
    | _ => none

mutual

/-- A node. Blocks stand in blocks only; `bare` lists need no indentation of their own. -/
def node (handles : Handles) (inBlock bare : Bool) : Nat → Rest → Option (Node × Rest)
  | 0, _ => none
  | _ + 1, .alias n :: rest => some (.alias n, rest)
  | fuel + 1, pieces => do
    let (p, rest) ← properties handles pieces
    match rest with
    | .token (.scalar style text) :: rest => some (.scalar p style text, rest)
    | .token .flowSequenceStart :: rest =>
      (flowItems handles true fuel rest).map fun r => (.sequence p r.1, r.2)
    | .token .flowMappingStart :: rest =>
      (flowEntries handles true fuel rest).map fun r => (.mapping p r.1, r.2)
    | .token t :: later =>
      if t = .blockEntry ∧ bare then
        (bareItems handles fuel rest).map fun r => (.sequence p r.1, r.2)
      else if t = .blockSequenceStart ∧ inBlock then
        (blockItems handles fuel later).map fun r => (.sequence p r.1, r.2)
      else if t = .blockMappingStart ∧ inBlock then
        (blockEntries handles fuel later).map fun r => (.mapping p r.1, r.2)
      else if p = {} then none
      else some (.scalar p .plain "", rest)
    | _ => if p = {} then none else some (.scalar p .plain "", rest)

def nodeUnless (handles : Handles) (stops : List Token) (inBlock bare : Bool) :
    Nat → Rest → Option (Node × Rest)
  | 0, _ => none
  | fuel + 1, rest =>
    if startsWith stops rest then some (.empty, rest) else node handles inBlock bare fuel rest

def blockItems (handles : Handles) : Nat → Rest → Option (List Node × Rest)
  | 0, _ => none
  | fuel + 1, .token .blockEntry :: rest => do
    let (v, rest) ← nodeUnless handles [.blockEntry, .blockEnd] true false fuel rest
    (blockItems handles fuel rest).map fun r => (v :: r.1, r.2)
  | _ + 1, .token .blockEnd :: rest => some ([], rest)
  | _ + 1, _ => none

def bareItems (handles : Handles) : Nat → Rest → Option (List Node × Rest)
  | 0, _ => none
  | fuel + 1, .token .blockEntry :: rest => do
    let (v, rest) ←
      nodeUnless handles [.blockEntry, .key, .value, .blockEnd] true false fuel rest
    (bareItems handles fuel rest).map fun r => (v :: r.1, r.2)
  | _ + 1, rest => some ([], rest)

def blockValue (handles : Handles) : Nat → Rest → Option (Node × Rest)
  | 0, _ => none
  | fuel + 1, .token .value :: rest =>
    nodeUnless handles [.key, .value, .blockEnd] true true fuel rest
  | _ + 1, rest => some (.empty, rest)

def blockEntries (handles : Handles) : Nat → Rest → Option (List (Node × Node) × Rest)
  | 0, _ => none
  | fuel + 1, .token .key :: rest => do
    let (k, rest) ← nodeUnless handles [.key, .value, .blockEnd] true true fuel rest
    let (v, rest) ← blockValue handles fuel rest
    (blockEntries handles fuel rest).map fun r => ((k, v) :: r.1, r.2)
  | _ + 1, .token .blockEnd :: rest => some ([], rest)
  | _ + 1, _ => none

def flowValue (handles : Handles) (stop : Token) : Nat → Rest → Option (Node × Rest)
  | 0, _ => none
  | fuel + 1, .token .value :: rest => nodeUnless handles [.flowEntry, stop] false false fuel rest
  | _ + 1, rest => some (.empty, rest)

/-- A mapping of one entry inside a list. Where the key is left out, one token is passed over. -/
def singleEntry (handles : Handles) : Nat → Rest → Option (Node × Rest)
  | 0, _ => none
  | fuel + 1, rest => do
    let (k, rest) ←
      if startsWith [.value, .flowEntry, .flowSequenceEnd] rest then some (.empty, rest.drop 1)
      else node handles false false fuel rest
    let (v, rest) ← flowValue handles .flowSequenceEnd fuel rest
    some (.mapping {} [(k, v)], rest)

def flowItems (handles : Handles) (first : Bool) : Nat → Rest → Option (List Node × Rest)
  | 0, _ => none
  | _ + 1, .token .flowSequenceEnd :: rest => some ([], rest)
  | fuel + 1, rest => do
    match ← afterComma first rest with
    | .token .flowSequenceEnd :: rest => some ([], rest)
    | .token .key :: rest =>
      let (v, rest) ← singleEntry handles fuel rest
      (flowItems handles false fuel rest).map fun r => (v :: r.1, r.2)
    | rest =>
      let (v, rest) ← node handles false false fuel rest
      (flowItems handles false fuel rest).map fun r => (v :: r.1, r.2)

/-- The entries of a mapping in braces, up to its end. A key without a mark has no value. -/
def flowEntries (handles : Handles) (first : Bool) :
    Nat → Rest → Option (List (Node × Node) × Rest)
  | 0, _ => none
  | _ + 1, .token .flowMappingEnd :: rest => some ([], rest)
  | fuel + 1, rest => do
    match ← afterComma first rest with
    | .token .flowMappingEnd :: rest => some ([], rest)
    | .token .key :: rest =>
      let (k, rest) ←
        nodeUnless handles [.value, .flowEntry, .flowMappingEnd] false false fuel rest
      let (v, rest) ← flowValue handles .flowMappingEnd fuel rest
      (flowEntries handles false fuel rest).map fun r => ((k, v) :: r.1, r.2)
    | rest =>
      let (k, rest) ← node handles false false fuel rest
      (flowEntries handles false fuel rest).map fun r => ((k, .empty) :: r.1, r.2)

end

end QueryWorkload.Yaml
