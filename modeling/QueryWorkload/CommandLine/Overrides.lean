import QueryWorkload.Instant.Timestamp
import QueryWorkload.Settings

set_option autoImplicit false

namespace QueryWorkload.CommandLine

inductive Usage where
  | help
  | version
  | noCommand
  | unknownCommand
  | unknownArgument
  | badValue
  | unreadable
  | repeated
  | extraValue
  deriving DecidableEq, Repr

structure Overrides where
  config : Option String := none
  useCase : Option String := none
  queryType : Option String := none
  backend : Option Backend := none
  separateTags : Option Bool := none
  scale : Option UInt64 := none
  start : Option Instant := none
  stop : Option Instant := none
  span : Option String := none
  queries : Option UInt64 := none
  seed : Option UInt64 := none
  workers : Option UInt64 := none
  output : Option String := none
  deriving DecidableEq, Repr

namespace Overrides

def assign {α : Type} (value? : Option α) (put : α → Settings → Settings) (c : Settings) : Settings :=
  match value? with
  | some value => put value c
  | none => c

/-- The flags that are given, one after the other. A given end of the range drops a span of the
settings, unless a span is given too. -/
def apply (o : Overrides) (c : Settings) : Settings :=
  c |> assign o.useCase (fun useCase c => { c with useCase })
    |> assign o.queryType (fun queryType c => { c with queryType })
    |> assign o.backend (fun backend c => { c with backend })
    |> assign o.separateTags (fun separateTags c => { c with separateTags })
    |> assign o.scale (fun scale c => { c with scale })
    |> assign o.start (fun start c => { c with start })
    |> assign o.stop (fun stop c =>
      { c with stop, span := if o.span.isNone then none else c.span })
    |> assign o.span (fun span c => { c with span := some span })
    |> assign o.queries (fun queries c => { c with queries })
    |> assign o.seed (fun seed c => { c with seed := some seed })
    |> assign o.workers (fun workers c => { c with workers })

end Overrides

inductive Flag where
  | config
  | useCase
  | queryType
  | format
  | separateTags
  | scale
  | start
  | stop
  | span
  | queries
  | seed
  | workers
  | output
  deriving DecidableEq, Repr

namespace Flag

def all : List Flag :=
  [.config, .useCase, .queryType, .format, .separateTags, .scale, .start, .stop, .span, .queries,
    .seed, .workers, .output]

def name : Flag → String
  | .config => "config"
  | .useCase => "use-case"
  | .queryType => "query-type"
  | .format => "format"
  | .separateTags => "clickhouse-use-tags"
  | .scale => "scale"
  | .start => "timestamp-start"
  | .stop => "timestamp-end"
  | .span => "span"
  | .queries => "queries"
  | .seed => "seed"
  | .workers => "workers"
  | .output => "output"

def letter? : Flag → Option Char
  | .config => some 'c'
  | .queryType => some 'q'
  | .format => some 'f'
  | .queries => some 'n'
  | .workers => some 'w'
  | .output => some 'o'
  | _ => none

def ofName? (name : String) : Option Flag :=
  all.find? (·.name = name)

def ofLetter? (c : Char) : Option Flag :=
  all.find? (·.letter? = some c)

def missing? : Flag → Option String
  | .separateTags => some "true"
  | _ => none

def isGiven (f : Flag) (o : Overrides) : Bool :=
  match f with
  | .config => o.config.isSome
  | .useCase => o.useCase.isSome
  | .queryType => o.queryType.isSome
  | .format => o.backend.isSome
  | .separateTags => o.separateTags.isSome
  | .scale => o.scale.isSome
  | .start => o.start.isSome
  | .stop => o.stop.isSome
  | .span => o.span.isSome
  | .queries => o.queries.isSome
  | .seed => o.seed.isSome
  | .workers => o.workers.isSome
  | .output => o.output.isSome

def readPath (text : String) : Except Usage String :=
  if text = "" then .error .badValue else .ok text

def readBackend (text : String) : Except Usage Backend :=
  match Backend.ofName? text with
  | some b => .ok b
  | none => .error .badValue

def readSwitch (text : String) : Except Usage Bool :=
  if text = "true" then .ok true
  else if text = "false" then .ok false
  else .error .badValue

def readNumber (text : String) : Except Usage UInt64 :=
  (Text.readUInt64 text.toList).mapError fun _ => .unreadable

def readTime (text : String) : Except Usage Instant :=
  match Timestamp.read text with
  | some t => .ok t
  | none => .error .unreadable

def read (f : Flag) (text : String) (o : Overrides) : Except Usage Overrides := do
  match f with
  | .config => return { o with config := some (← readPath text) }
  | .useCase => return { o with useCase := some text }
  | .queryType => return { o with queryType := some text }
  | .format => return { o with backend := some (← readBackend text) }
  | .separateTags => return { o with separateTags := some (← readSwitch text) }
  | .scale => return { o with scale := some (← readNumber text) }
  | .start => return { o with start := some (← readTime text) }
  | .stop => return { o with stop := some (← readTime text) }
  | .span => return { o with span := some text }
  | .queries => return { o with queries := some (← readNumber text) }
  | .seed => return { o with seed := some (← readNumber text) }
  | .workers => return { o with workers := some (← readNumber text) }
  | .output => return { o with output := some (← readPath text) }

/-- Puts in the value of a flag. That the flag is there already is found before its value is read. -/
def give (f : Flag) (text : String) (o : Overrides) : Except Usage Overrides :=
  if f.isGiven o then .error .repeated else f.read text o

end Flag

end QueryWorkload.CommandLine
