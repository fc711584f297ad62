import QueryWorkload.Pipeline.Document

set_option autoImplicit false

namespace QueryWorkload

inductive Payload where
  | empty
  | sql (table statement : String)
  | pipeline (collection : String) (stages : List Pipeline.Document)
  /-- An expression evaluated every `step` seconds from `start` to `stop`, in seconds since 1970. -/
  | selector (expr : String) (start stop : Int) (step : Nat)
  deriving Repr

structure Query where
  id : Nat
  label : String
  description : String
  payload : Payload
  deriving Repr

namespace Payload

def isEmpty : Payload → Bool
  | .empty => true
  | _ => false

def toJson : Payload → Json
  | .empty => .obj [("kind", .str "empty")]
  | .sql table statement =>
    .obj [("kind", .str "sql"), ("table", .str table), ("sql", .str statement)]
  | .pipeline collection stages =>
    .obj [("kind", .str "pipeline"), ("collection", .str collection),
      ("stages", .arr (stages.map Pipeline.Document.toJson))]
  | .selector expr start stop step =>
    .obj [("kind", .str "selector"), ("expr", .str expr), ("start", .int start),
      ("end", .int stop), ("step_secs", .ofNat step)]

def sql? : Payload → Option String
  | .sql _ statement => some statement
  | _ => none

def stages? : Payload → Option (List Pipeline.Document)
  | .pipeline _ stages => some stages
  | _ => none

def selector? : Payload → Option String
  | .selector expr _ _ _ => some expr
  | _ => none

end Payload

structure Body where
  label : String
  description : String
  payload : Payload
  deriving Repr

namespace Query

def new (id : Nat) : Query :=
  { id, label := "", description := "", payload := .empty }

def fill (q : Query) (body : Body) : Query :=
  { q with label := body.label, description := body.description, payload := body.payload }

def isFilled (q : Query) : Bool :=
  !q.payload.isEmpty

def isBlank (q : Query) : Bool :=
  q.id = 0 && q.label = "" && q.description = "" && q.payload.isEmpty

def toJson (q : Query) : Json :=
  .obj [("id", .ofNat q.id), ("human_label", .str q.label),
    ("human_description", .str q.description), ("payload", q.payload.toJson)]

def line (q : Query) : String :=
  q.toJson.text

end Query

end QueryWorkload
