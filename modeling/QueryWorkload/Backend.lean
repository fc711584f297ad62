import QueryWorkload.Pipeline.Aggregation
import QueryWorkload.Selector
import QueryWorkload.Sql.Statement

set_option autoImplicit false

namespace QueryWorkload

structure Compiler (σ : Type) where
  name : String
  fill? : Scenario → Option (Filling σ Unit)

namespace Compiler

variable {σ : Type} [WordSource σ]

def sql (layout : Sql.TagLayout) : Compiler σ :=
  ⟨Sql.backend, fun s => some (Sql.fill layout s)⟩

def pipeline : Compiler σ :=
  ⟨Pipeline.backend, fun s => some (Pipeline.fill s)⟩

def selector : Compiler σ :=
  ⟨Selector.backend, Selector.fill?⟩

def bare (name : String) : Compiler σ :=
  ⟨name, fun _ => none⟩

end Compiler

inductive Backend where
  | clickHouse
  | mongo
  | victoriaMetrics
  deriving DecidableEq, Repr

namespace Backend

def name : Backend → String
  | .clickHouse => "clickhouse"
  | .mongo => "mongo"
  | .victoriaMetrics => "victoriametrics"

def all : List Backend :=
  [.clickHouse, .mongo, .victoriaMetrics]

def ofName? (name : String) : Option Backend :=
  all.find? (·.name = name)

/-- Lower case, for the characters whose lower case is an ASCII letter: the Kelvin sign is one. -/
def lowerChar (c : Char) : Char :=
  if c = '\u212A' then 'k' else c.toLower

/-- Reads a name in any case; `mongodb` and `vm` are names too. -/
def read (text : String) : Except String Backend :=
  let name := String.ofList (text.toList.map lowerChar)
  if name = "mongodb" then .ok .mongo
  else if name = "vm" then .ok .victoriaMetrics
  else
    match ofName? name with
    | some b => .ok b
    | none => .error ("Unknown format: " ++ text)

variable {σ : Type} [WordSource σ]

def compiler (b : Backend) (layout : Sql.TagLayout) : Compiler σ :=
  match b with
  | .clickHouse => .sql layout
  | .mongo => .pipeline
  | .victoriaMetrics => .selector

end Backend

namespace Scenario

variable {σ : Type}

def refill (s : Scenario) (c : Compiler σ) : Filling σ Unit :=
  match c.fill? s with
  | some fill => fill
  | none => Filling.ofExcept (.error (Refusal.unsupported s.name c.name))

def fill (s : Scenario) (c : Compiler σ) (q : Query) : Sampling σ Query := fun t =>
  let (r, d) := s.refill c ⟨q, t⟩
  (r.map fun _ => d.query, d.sampler)

end Scenario

end QueryWorkload
