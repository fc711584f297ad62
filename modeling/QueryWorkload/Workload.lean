import QueryWorkload.Plan
import QueryWorkload.Random.ChaCha
import QueryWorkload.Settings
import QueryWorkload.UseCase

set_option autoImplicit false

namespace QueryWorkload

namespace Workload

inductive Error where
  | settings (cause : Settings.Error)
  | lookup (cause : UseCase.LookupError)
  | misfit (queryType : String) (cause : Refusal)
  | worker (index : Nat) (cause : Refusal)
  | fault (why : Fault)

def Error.message : Error → String
  | .settings cause => cause.message
  | .lookup cause => cause.message
  | .misfit queryType cause =>
    "Query type '" ++ queryType ++ "' does not fit the configuration: " ++ cause.message
  | .worker index cause => "Worker " ++ Text.numeral index ++ " failed: " ++ cause.message
  | .fault why => why.message

structure Job where
  scenario : Scenario
  compiler : Compiler ChaCha
  range : TimeRange
  population : Population
  seed : UInt64

def fillAll {σ : Type} (s : Scenario) (c : Compiler σ) : List Nat → Sampling σ (List Query)
  | [] => pure []
  | id :: rest => do
    let q ← s.fill c (Query.new id)
    return q :: (← fillAll s c rest)

namespace Job

def sampler (job : Job) (worker : Nat) : Sampler ChaCha :=
  ⟨job.range, job.population, .ofSeed (Plan.seed job.seed worker)⟩

def querySize : Nat := 112

def runShare (job : Job) (p : Plan) : Except Failure (List Query) := do
  (Fault.checkMemory querySize p.count).mapError Failure.fault
  (fillAll job.scenario job.compiler p.ids (job.sampler p.worker)).1

end Job

def faultOf? {α : Type} : Except Failure α → Option Fault
  | .error (.fault why) => some why
  | _ => none

def concat : List (Plan × Except Failure (List Query)) → Except Error (List Query)
  | [] => .ok []
  | (_, .ok batch) :: rest => (concat rest).map (batch ++ ·)
  | (p, .error (.refused why)) :: _ => .error (.worker p.worker why)
  | (_, .error (.fault why)) :: _ => .error (.fault why)

def Job.run (job : Job) (plans : List Plan) : Except Error (List Query) :=
  let results := plans.map fun p => (p, job.runShare p)
  match results.findSome? fun r => faultOf? r.2 with
  | some why => .error (.fault why)
  | none => concat results

def fitting (c : Settings) (range : TimeRange) : Except Error Scenario := do
  let s ← (UseCase.lookup c.useCase c.queryType).mapError Error.lookup
  match s.validate c.fleet range with
  | .ok () => .ok s
  | .error (.refused why) => .error (.misfit c.queryType why)
  | .error (.fault why) => .error (.fault why)

def job (c : Settings) (entropy : UInt64) : Except Error Job := do
  discard (c.validate.mapError Error.settings)
  let range ← c.range.mapError Error.settings
  let scenario ← fitting c range
  return {
    scenario, range
    compiler := c.backend.compiler (.ofUseTags c.separateTags)
    population := c.fleet
    seed := c.seed.getD entropy }

def generate (c : Settings) (entropy : UInt64) : Except Error (List Query) := do
  let job ← job c entropy
  job.run (← (Plan.arrange c.queries.toNat c.workers.toNat).mapError Error.fault)

end Workload

end QueryWorkload
