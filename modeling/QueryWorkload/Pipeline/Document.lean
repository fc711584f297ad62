import QueryWorkload.Json

set_option autoImplicit false

namespace QueryWorkload

namespace Pipeline

inductive Value where
  | str (s : String)
  | int (n : Int)
  | date (millis : Int)
  | list (items : List Value)
  | doc (fields : List (String × Value))
  deriving Repr

/-- Putting a field in again keeps its place and replaces its value. -/
structure Document where
  fields : List (String × Value)
  deriving Repr

instance : Coe Document Value := ⟨fun d => .doc d.fields⟩

def insertField (key : String) (value : Value) : List (String × Value) → List (String × Value)
  | [] => [(key, value)]
  | (k, v) :: rest =>
    if k = key then (key, value) :: rest else (k, v) :: insertField key value rest

namespace Document

def insert (d : Document) (key : String) (value : Value) : Document :=
  ⟨insertField key value d.fields⟩

/-- A document with the fields put in from the left. -/
def ofFields (fields : List (String × Value)) : Document :=
  fields.foldl (fun d f => d.insert f.1 f.2) ⟨[]⟩

def single (key : String) (value : Value) : Document :=
  ⟨[(key, value)]⟩

end Document

def Value.field? (key : String) : Value → Option Value
  | .doc fields => fields.lookup key
  | _ => none

def Document.at? (d : Document) (path : List String) : Option Value :=
  path.foldlM (fun v key => v.field? key) (d : Value)

mutual

def Value.toJson : Value → Json
  | .str s => .str s
  | .int n => .int n
  | .date millis => .obj [("$date", .obj [("$numberLong", .str (Text.signedNumeral millis))])]
  | .list items => .arr (Value.listToJson items)
  | .doc fields => .obj (Value.fieldsToJson fields)

def Value.listToJson : List Value → List Json
  | [] => []
  | v :: rest => v.toJson :: Value.listToJson rest

def Value.fieldsToJson : List (String × Value) → List (String × Json)
  | [] => []
  | (k, v) :: rest => (k, v.toJson) :: Value.fieldsToJson rest

end

def Document.toJson (d : Document) : Json :=
  (d : Value).toJson

end Pipeline

end QueryWorkload
