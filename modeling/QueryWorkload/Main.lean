import QueryWorkload.CommandLine.Run

set_option autoImplicit false

namespace QueryWorkload.CommandLine

def FileError.ofIO : IO.Error → FileError
  | .noFileOrDirectory _ _ _ => .notFound
  | .noSuchThing _ 6 _ => .noDevice
  | .inappropriateType _ 20 _ => .notDirectory
  | .inappropriateType _ 21 _ => .isDirectory
  | .resourceExhausted _ 28 _ => .noSpace
  | .invalidArgument _ 36 _ => .nameTooLong
  | e => .other (toString e)

def attempt {α : Type} (act : IO α) : IO (Except FileError α) := do
  try
    return .ok (← act)
  catch e =>
    return .error (.ofIO e)

def onDisk : Files IO :=
  { read := fun path => do
      match ← attempt (IO.FS.readBinFile path) with
      | .error e => return .error e
      | .ok octets =>
        match String.fromUTF8? octets with
        | some text => return .ok text
        | none => return .error .notText
    write := fun path text => do
      match ← attempt (IO.FS.Handle.mk path .write) with
      | .error e => return .error (.opening e)
      | .ok h => return (← attempt (h.putStr text *> h.flush)).mapError .writing }

def randomWord : IO UInt64 := do
  return (← IO.getRandomBytes 8).toList.foldl (fun n b => n * 256 + b.toUInt64) 0

end QueryWorkload.CommandLine

open QueryWorkload.CommandLine in
def main (args : List String) : IO UInt32 := do
  let e : Environment :=
    { config := ← IO.getEnv "QUERYGEN_CONFIG", seed := ← IO.getEnv "QUERYGEN_SEED" }
  let outcome ← run onDisk e (← randomWord) args
  (← IO.getStdout).putStr outcome.output
  (← IO.getStderr).putStr outcome.errors
  return outcome.exit.toUInt32
