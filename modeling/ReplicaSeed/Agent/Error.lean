import ReplicaSeed.Method.Error
import ReplicaSeed.Operation.Phase
import ReplicaSeed.Seed.Id

/-!
# Refused and failed requests

Why the agent did not do what it was asked. Each text names the seed, stage or method that it is
about.

## Main definitions

* `RequestError`: the reasons.
* `RequestError.httpStatus`, `RequestError.isRetriable`: what the control plane is told about them.
-/

namespace ReplicaSeed

/-- Why the agent did not do what it was asked. -/
inductive RequestError where
  | seedNotFound (id : SeedId)
  | stageNotFound (id : SeedId) (stage : Stage)
  | unknownMethod (name : String)
  | methodUnavailable (method : Method)
  | methodMismatch (id : SeedId) (expected requested : Method)
  /-- Another seed has a stage in flight. -/
  | operationRunning (running : SeedId) (stage : Stage)
  | invalidTransition (id : SeedId) (phase : Phase) (stage : Stage)
  | notRunning (id : SeedId) (stage : Stage)
  | stageNotCompleted (id : SeedId) (stage : Stage)
  | invalidRequest (text : String)
  | method (e : MethodError)
  | exec (e : ExecError)
  | controlPlane (text : String)
  deriving DecidableEq, Repr

namespace RequestError

/-- The text of an error. -/
def message : RequestError → String
  | seedNotFound id => "SeedID not found: " ++ id.text
  | stageNotFound id stage => "stage " ++ stage.name ++ " not found for seed " ++ id.text
  | unknownMethod name => "unknown seed method: " ++ name
  | methodUnavailable m => "seed method " ++ m.name ++ " is not available on this host"
  | methodMismatch id expected requested =>
    "seed " ++ id.text ++ " uses " ++ expected.name ++ ", not " ++ requested.name
  | operationRunning running stage =>
    "seed " ++ running.text ++ " is still running " ++ stage.name
  | invalidTransition id phase stage =>
    "seed " ++ id.text ++ " cannot start " ++ stage.name ++ " while " ++ phase.text
  | notRunning id stage => "stage " ++ stage.name ++ " of seed " ++ id.text ++ " is not running"
  | stageNotCompleted id stage =>
    "stage " ++ stage.name ++ " of seed " ++ id.text ++ " has not completed"
  | invalidRequest text => "invalid request: " ++ text
  | method e => e.message
  | exec e => e.message
  | controlPlane text => "control plane error: " ++ text

/-- The status of the HTTP response. -/
def httpStatus : RequestError → Nat
  | seedNotFound _ | stageNotFound .. | unknownMethod _ => 404
  | invalidRequest _ => 400
  | methodMismatch .. | operationRunning .. | invalidTransition .. | notRunning ..
  | stageNotCompleted .. => 409
  | methodUnavailable _ => 503
  | method _ | exec _ => 500
  | controlPlane _ => 502

/-- The same request may succeed later without a change of the operation. -/
def isRetriable : RequestError → Bool
  | operationRunning .. | methodUnavailable _ | controlPlane _ => true
  | _ => false

end RequestError

/-- A stage may start only from a phase that allows it. -/
def Phase.permit (id : SeedId) (phase : Phase) (stage : Stage) : Except RequestError Unit :=
  if phase.allows stage then .ok () else .error (.invalidTransition id phase stage)

namespace Phase

variable {id : SeedId} {phase : Phase} {stage : Stage}

theorem permit_of_allows (h : phase.allows stage) : Phase.permit id phase stage = .ok () :=
  if_pos h

theorem permit_of_not_allows (h : ¬ phase.allows stage) :
    Phase.permit id phase stage = .error (.invalidTransition id phase stage) :=
  if_neg h

end Phase

end ReplicaSeed
