import QueryWorkload.Failure

set_option autoImplicit false

namespace QueryWorkload.Sql

inductive TagLayout where
  | separate
  | inlined
  deriving DecidableEq, Repr

/-- A string literal: a quote inside is written twice. -/
def quoteChars (s : List Char) : List Char :=
  s.flatMap fun c => if c = '\'' then ['\'', '\''] else [c]

def quote (s : String) : String :=
  "'" ++ String.ofList (quoteChars s.toList) ++ "'"

namespace TagLayout

def ofUseTags (separate : Bool) : TagLayout :=
  if separate then .separate else .inlined

def name : TagLayout → String
  | .separate => "separate"
  | .inlined => "inlined"

def entityFilter (layout : TagLayout) (column : String) (names : List String) :
    Except Fault String :=
  if names = [] then .error (.emptyFilter column)
  else
    match layout with
    | .separate =>
      .ok ("tags_id IN (SELECT id FROM tags WHERE " ++ column ++ " IN (" ++
        ",".intercalate (names.map quote) ++ "))")
    | .inlined =>
      .ok ("(" ++ " OR ".intercalate (names.map fun n => column ++ " = " ++ quote n) ++ ")")

def join (layout : TagLayout) (source : String) : String :=
  match layout with
  | .separate => "ANY INNER JOIN tags AS t ON " ++ source ++ ".tags_id = t.id"
  | .inlined => ""

def tagColumn (layout : TagLayout) (column : String) : String :=
  match layout with
  | .separate => "t." ++ column
  | .inlined => column

/-- A data column in a statement with a join. The table of tags has a time column too. -/
def dataColumn (layout : TagLayout) (table column : String) : String :=
  match layout with
  | .separate => table ++ "." ++ column
  | .inlined => column

def seriesKey : TagLayout → String
  | .separate => "tags_id"
  | .inlined => "hostname"

end TagLayout

end QueryWorkload.Sql
