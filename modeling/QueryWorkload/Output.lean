import QueryWorkload.Query

set_option autoImplicit false

namespace QueryWorkload.Output

def lines (queries : List Query) : List String :=
  queries.map Query.line

def text (queries : List Query) : String :=
  String.join (queries.map fun q => q.line ++ "\n")

inductive Error where
  | line (id : Nat)
  | newline
  deriving DecidableEq, Repr

def Error.message (why : String) : Error → String
  | .line id => "Failed to serialize query " ++ Text.numeral id ++ ": " ++ why
  | .newline => why

def noRoom : String := "failed to write whole buffer"

def fit (room : Nat) : List Query → Except Error Unit
  | [] => .ok ()
  | q :: rest =>
    let size := q.line.utf8ByteSize
    if room < size then .error (.line q.id)
    else if room = size then .error .newline
    else fit (room - (size + 1)) rest

end QueryWorkload.Output
