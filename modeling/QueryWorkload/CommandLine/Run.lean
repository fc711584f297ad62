import QueryWorkload.CommandLine.Arguments
import QueryWorkload.CommandLine.Files
import QueryWorkload.Output
import QueryWorkload.Settings.Yaml
import QueryWorkload.Text.Quoted
import QueryWorkload.Workload

set_option autoImplicit false

namespace QueryWorkload.CommandLine

structure Outcome where
  exit : Nat
  output : String := ""
  errors : String := ""
  deriving DecidableEq, Repr

def programName : String := "querygen"

def releaseVersion : String := "0.1.0"

def textOf (lines : List String) : String :=
  String.join (lines.map (· ++ "\n"))

def programHelp : String :=
  textOf
    ["Generate benchmark queries for ClickHouse, MongoDB and VictoriaMetrics", "",
      "Usage: " ++ programName ++ " <COMMAND>", "", "Commands:",
      "  generate  Generate queries as JSON lines",
      "  list      List use cases and their query types",
      "  help      Print this message or the help of the given subcommand(s)"]

def Usage.text : Usage → String
  | .noCommand => programHelp
  | .unknownCommand => textOf ["error: unrecognized subcommand"]
  | .unknownArgument => textOf ["error: unexpected argument found"]
  | .badValue => textOf ["error: invalid value for an argument"]
  | .unreadable => textOf ["error: value of an argument cannot be read"]
  | .repeated => textOf ["error: an argument cannot be used multiple times"]
  | .extraValue => textOf ["error: unexpected value for an argument"]
  | .help => programHelp
  | .version => textOf [programName ++ " " ++ releaseVersion]

/-- Help and version are answers; all else is an error of the command line. -/
def Usage.outcome : Usage → Outcome
  | .help => { exit := 0, output := Usage.help.text }
  | .version => { exit := 0, output := Usage.version.text }
  | e => { exit := 2, errors := e.text }

def failed (message : String) : Outcome :=
  { exit := 1, errors := textOf ["Error: " ++ message] }

def crashed (why : Fault) : Outcome :=
  { exit := 101, errors := textOf [why.message] }

def listing : String :=
  textOf (UseCase.all.flatMap UseCase.listing)

section

variable {m : Type → Type} [Monad m]

def load (files : Files m) : Option String → m (Except String Settings)
  | none => return .ok .standard
  | some path => do
    match ← files.read path with
    | .error e =>
      return .error ("Failed to read config file " ++ Text.quoted path ++ ": " ++ e.message)
    | .ok text =>
      match Settings.ofYaml? text with
      | some c => return .ok c
      | none =>
        return .error ("Failed to parse config file " ++ Text.quoted path ++ ": invalid settings")

/-- Queries go through a buffer of this size; the first time it is full, and at the end, it is written. -/
def bufferSize : Nat := 8192

def unwritten (queries : List Query) (why : FileError) : String :=
  match Output.fit bufferSize queries with
  | .error e => e.message why.message
  | .ok () => why.message

def deliver (files : Files m) (queries : List Query) : Option String → m Outcome
  | none => return { exit := 0, output := Output.text queries }
  | some path => do
    match ← files.write path (Output.text queries) with
    | .ok () => return { exit := 0 }
    | .error (.opening e) =>
      return failed ("Failed to create output file " ++ Text.quoted path ++ ": " ++ e.message)
    | .error (.writing e) =>
      return failed
        ("Failed to write queries to " ++ Text.quoted path ++ ": " ++ unwritten queries e)

def generate (files : Files m) (o : Overrides) (entropy : UInt64) : m Outcome := do
  match ← load files o.config with
  | .error message => return failed message
  | .ok c =>
    match Workload.generate (o.apply c) entropy with
    | .error (.fault why) => return crashed why
    | .error e => return failed e.message
    | .ok queries => deliver files queries o.output

def run (files : Files m) (e : Environment) (entropy : UInt64) (args : List String) : m Outcome :=
  match Command.read e args with
  | .error usage => return usage.outcome
  | .ok .list => return { exit := 0, output := listing }
  | .ok (.generate o) => generate files o entropy

end

end QueryWorkload.CommandLine
