import QueryWorkload.Yaml.Node

set_option autoImplicit false

namespace QueryWorkload.Yaml

mutual

def Node.anchored : Node → List (Nat × Node)
  | .alias _ => []
  | .scalar p style text => p.anchor.toList.map fun n => (n, .scalar p style text)
  | .sequence p items =>
    (p.anchor.toList.map fun n => (n, .sequence p items)) ++ anchoredItems items
  | .mapping p entries =>
    (p.anchor.toList.map fun n => (n, .mapping p entries)) ++ anchoredEntries entries

def anchoredItems : List Node → List (Nat × Node)
  | [] => []
  | v :: rest => v.anchored ++ anchoredItems rest

def anchoredEntries : List (Node × Node) → List (Nat × Node)
  | [] => []
  | (k, v) :: rest => k.anchored ++ v.anchored ++ anchoredEntries rest

end

def directives (handles : Handles) (version : Bool) : Rest → Option (Handles × Rest)
  | .token (.versionDirective major minor) :: rest =>
    if !version && major = 1 && (minor = 1 || minor = 2) then directives handles true rest else none
  | .token (.tagDirective h start) :: rest =>
    if (handles.lookup h).isSome then none else directives ((h, start) :: handles) version rest
  | rest => some (handles ++ Handles.standard, rest)

def content (handles : Handles) (fuel : Nat) (rest : Rest) : Option (Node × Rest) :=
  match rest with
  | .token (.versionDirective _ _) :: _ => some (.empty, rest)
  | .token (.tagDirective _ _) :: _ => some (.empty, rest)
  | _ => nodeUnless handles [.documentStart, .documentEnd, .streamEnd] true false fuel rest

def isMarked : Rest → Bool
  | .token (.versionDirective _ _) :: _ => true
  | .token (.tagDirective _ _) :: _ => true
  | .token .documentStart :: _ => true
  | _ => false

def document (fuel : Nat) (rest : Rest) : Option (Node × Rest) :=
  if isMarked rest then do
    let (handles, rest) ← directives [] false rest
    match rest with
    | .token .documentStart :: rest => content handles fuel rest
    | _ => none
  else node Handles.standard true false fuel rest

structure Document where
  root : Option Node
  deriving Repr

namespace Document

/-- A text with an error, or with a second document, gives none. -/
def ofTokens? (ts : List Token) : Option Document := do
  let pieces ← numberAnchors [] ts
  match pieces with
  | [.token .streamEnd] => some ⟨none⟩
  | _ =>
    let (root, rest) ← document (4 * pieces.length + 4) pieces
    if rest.dropWhile (· = .token .documentEnd) = [.token .streamEnd] then some ⟨some root⟩ else none

def read (text : String) : Option Document := do
  ofTokens? (← tokens text)

/-- The node that an alias stands for; of two nodes with one number, the later one. -/
def resolve (d : Document) : Node → Option Node
  | .alias n => ((d.root.elim [] Node.anchored).reverse).lookup n
  | v => some v

end Document

end QueryWorkload.Yaml
