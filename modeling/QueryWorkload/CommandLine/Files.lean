set_option autoImplicit false

namespace QueryWorkload.CommandLine

inductive FileError where
  | notFound
  | noDevice
  | notDirectory
  | isDirectory
  | noSpace
  | nameTooLong
  | notText
  | other (text : String)
  deriving DecidableEq, Repr

def FileError.message : FileError → String
  | .notFound => "No such file or directory (os error 2)"
  | .noDevice => "No such device or address (os error 6)"
  | .notDirectory => "Not a directory (os error 20)"
  | .isDirectory => "Is a directory (os error 21)"
  | .noSpace => "No space left on device (os error 28)"
  | .nameTooLong => "File name too long (os error 36)"
  | .notText => "stream did not contain valid UTF-8"
  | .other text => text

inductive WriteError where
  | opening (why : FileError)
  | writing (why : FileError)
  deriving DecidableEq, Repr

structure Files (m : Type → Type) where
  read : String → m (Except FileError String)
  write : String → String → m (Except WriteError Unit)

end QueryWorkload.CommandLine
