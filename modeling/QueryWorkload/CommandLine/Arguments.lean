import QueryWorkload.CommandLine.Overrides

set_option autoImplicit false

namespace QueryWorkload.CommandLine

structure Environment where
  config : Option String := none
  seed : Option String := none
  deriving Repr

inductive Command where
  | list
  | generate (overrides : Overrides)
  deriving Repr

inductive Argument where
  | dashes
  | long (name : String) (value? : Option String)
  | short (letter : Char) (rest : List Char)
  | word (text : String)
  deriving DecidableEq, Repr

namespace Argument

def splitAtEquals (s : List Char) : String × Option String :=
  let name := s.takeWhile (· ≠ '=')
  (String.ofList name,
    if name.length < s.length then some (String.ofList (s.drop (name.length + 1))) else none)

def ofText (text : String) : Argument :=
  match text.toList with
  | ['-', '-'] => .dashes
  | '-' :: '-' :: s => .long (splitAtEquals s).1 (splitAtEquals s).2
  | '-' :: c :: s => .short c s
  | _ => .word text

end Argument

/-- The flags so far, and the last one if it is not put in yet. -/
structure Reading where
  given : Overrides := {}
  pending : Option (Flag × Option String) := none
  deriving Repr

namespace Reading

def settle (r : Reading) : Except Usage Overrides :=
  match r.pending with
  | none => .ok r.given
  | some (f, value?) =>
    match value?.or f.missing? with
    | some text => f.give text r.given
    | none => .error .badValue

def expect (f : Flag) (r : Reading) : Except Usage Reading := do
  return { given := ← r.settle, pending := some (f, none) }

def attach (f : Flag) (text : String) (r : Reading) : Except Usage Reading := do
  return { given := ← f.give text (← r.settle) }

def stop (why : Usage) (r : Reading) : Except Usage Reading := do
  discard r.settle
  .error why

def shortFlag (f : Flag) (r : Reading) : List Char → Except Usage Reading
  | [] => r.expect f
  | '=' :: text => r.attach f (String.ofList text)
  | text => r.attach f (String.ofList text)

/-- One argument of a run. What is unknown is reported before anything about the pending flag. -/
def step (r : Reading) : Argument → Except Usage Reading
  | .dashes => .ok r
  | .long name value? =>
    if name = "help" then
      match value? with
      | some _ => .error .extraValue
      | none => r.stop .help
    else
      match Flag.ofName? name, value? with
      | some f, some text => r.attach f text
      | some f, none => r.expect f
      | none, _ => .error .unknownArgument
  | .short c rest =>
    if c = 'h' then r.stop .help
    else
      match Flag.ofLetter? c with
      | some f => r.shortFlag f rest
      | none => .error .unknownArgument
  | .word text =>
    match r.pending with
    | some (f, none) => .ok { r with pending := some (f, some text) }
    | _ => .error .unknownArgument

def run (r : Reading) : List String → Except Usage Overrides
  | [] => r.settle
  | text :: rest =>
    match Argument.ofText text with
    | .dashes => if rest = [] then r.settle else .error .unknownArgument
    | a => do (← r.step a).run rest

end Reading

def Environment.fill (e : Environment) (o : Overrides) : Except Usage Overrides := do
  let put (f : Flag) (value? : Option String) (o : Overrides) : Except Usage Overrides :=
    match value? with
    | some text => if f.isGiven o then .ok o else f.read text o
    | none => .ok o
  put .seed e.seed (← put .config e.config o)

def readList : List String → Except Usage Unit
  | [] => .ok ()
  | text :: rest =>
    match Argument.ofText text with
    | .dashes => if rest = [] then .ok () else .error .unknownArgument
    | .long name value? =>
      if name = "help" then .error (if value?.isSome then .extraValue else .help)
      else .error .unknownArgument
    | .short c _ => .error (if c = 'h' then .help else .unknownArgument)
    | .word _ => .error .unknownArgument

def commandNames : List String :=
  ["generate", "list", "help"]

def readHelp : List String → Usage
  | [] => .help
  | [name] => if commandNames.contains name then .help else .unknownCommand
  | _ => .unknownCommand

def readGlobal : Argument → Usage
  | .dashes => .noCommand
  | .long name value? =>
    if name = "help" ∨ name = "version" then
      if value?.isSome then .extraValue else if name = "help" then .help else .version
    else .unknownArgument
  | .short c _ => if c = 'h' then .help else if c = 'V' then .version else .unknownArgument
  | .word _ => .unknownCommand

def Command.read (e : Environment) : List String → Except Usage Command
  | [] => .error .noCommand
  | "generate" :: rest => do return .generate (← e.fill (← ({} : Reading).run rest))
  | "list" :: rest => do
    readList rest
    return .list
  | "help" :: rest => .error (readHelp rest)
  | ["--"] => .error .noCommand
  | "--" :: text :: _ =>
    .error (if commandNames.contains text then .unknownArgument else .unknownCommand)
  | text :: _ => .error (readGlobal (.ofText text))

end QueryWorkload.CommandLine
