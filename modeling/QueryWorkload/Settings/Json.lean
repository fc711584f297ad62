import QueryWorkload.Settings.Fields

set_option autoImplicit false

namespace QueryWorkload

namespace FieldReader

def jsonText : Json → Option String
  | .str s => some s
  | _ => none

def jsonNumber : Json → Option UInt64
  | .int (.ofNat n) => if n < UInt64.size then some n.toUInt64 else none
  | _ => none

def jsonFlag : Json → Option Bool
  | .bool b => some b
  | _ => none

/-- A name, or an object that holds nothing but the name. -/
def jsonChoice : Json → Option String
  | .str s => some s
  | .obj [(s, .null)] => some s
  | _ => none

def jsonAbsent : Json → Option Bool
  | .null => some true
  | _ => some false

def jsonMembers (names : List String) : Json → Option (List (String × Json))
  | .obj members => some members
  | .arr items => if items.length ≤ names.length then some (names.zip items) else none
  | _ => none

def json : FieldReader Json :=
  { text := jsonText
    number := jsonNumber
    flag := jsonFlag
    choice := jsonChoice
    absent := jsonAbsent
    members := jsonMembers }

end FieldReader

namespace Settings

def ofJson? (v : Json) : Option Settings :=
  FieldReader.json.settings v

def toJson (c : Settings) : Json :=
  .obj ([("use_case", .str c.useCase), ("query_type", .str c.queryType),
      ("format", .str c.backend.name), ("scale", .ofNat c.scale.toNat),
      ("timestamp_start", .str c.start.toText), ("timestamp_end", .str c.stop.toText)] ++
    (c.span.toList.map fun s => ("span", .str s)) ++
    [("queries", .ofNat c.queries.toNat)] ++
    (c.seed.toList.map fun n => ("seed", .ofNat n.toNat)) ++
    [("workers", .ofNat c.workers.toNat), ("clickhouse_use_tags", .bool c.separateTags)] ++
    c.population.toList.map fun p => ("universe", p.toJson))

end Settings

end QueryWorkload
