import ReplicaSeed.Agent.Coordinator
import ReplicaSeed.Method.Registry

/-!
# Requests to an agent

What the control plane can ask an agent for, the answers, and how a request for a stage reaches the
coordinator.

## Main definitions

* `AgentRequest`, `AgentAnswer`: requests and answers.
* `Coordinator.request`: a request for a stage, with the method looked up first.
* `StageEnd`: how the work of a stage ended, and what is reported of it.
-/

namespace ReplicaSeed

/-- What an agent can be asked for. -/
inductive AgentRequest where
  | start (id : SeedId) (method : String) (request : StageRequest)
  /-- The coordinates of the backup. -/
  | metadata (id : SeedId) (method : String)
  | abort (id : SeedId) (stage : Stage)
  | stage (id : SeedId) (stage : Stage)
  | operation
  | methods
  deriving DecidableEq, Repr

/-- The answer to a request that does not fail. -/
inductive AgentAnswer where
  | start (outcome : StartOutcome)
  | coordinates (c : Coordinates)
  | aborted (id : SeedId) (stage : Stage)
  | record (r : StageRecord)
  | operation (op : Option Operation)
  | methods (ds : List Descriptor)

namespace Registry

variable {I : Interface} (r : Registry I)

/-- The method that a request names; there must be one. -/
def known (name : String) : Except RequestError (SeedMethod I) :=
  match r.resolve? name with
  | some m => .ok m
  | none => .error (.unknownMethod name)

/-- The method that a request names; the last probe must have found its tools. -/
def usable (name : String) : Except RequestError (SeedMethod I) :=
  match r.known name with
  | .ok m => if r.isAvailable m.kind then .ok m else .error (.methodUnavailable m.kind)
  | .error e => .error e

end Registry

namespace Coordinator

variable {I : Interface} (c : Coordinator)

/-- A request for a stage must be complete: a Backup names the other server. -/
def complete : StageRequest → Except RequestError Unit
  | .backup host _ => if host = "" then .error (.invalidRequest "backup host is empty") else .ok ()
  | _ => .ok ()

/-- The method for a request that is complete. -/
def methodFor (registry : Registry I) (name : String) (request : StageRequest) :
    Except RequestError (SeedMethod I) :=
  match complete request with
  | .error e => .error e
  | .ok () => registry.usable name

/-- Starts a stage with a method that the request names. -/
def request (registry : Registry I) (id : SeedId) (name : String) (request : StageRequest)
    (now : Instant) : Coordinator × Except RequestError (Start × SeedMethod I) :=
  match methodFor registry name request with
  | .error e => (c, .error e)
  | .ok m =>
    let (c, result) := c.start m.kind id request now
    (c, result.map fun start => (start, m))

/-- Begins to read the coordinates with a method that the request names. -/
def requestMetadata (registry : Registry I) (id : SeedId) (name : String) (now : Instant) :
    Coordinator × Except RequestError (StageRecord × SeedMethod I) :=
  match registry.known name with
  | .error e => (c, .error e)
  | .ok m =>
    let (c, result) := c.beginMetadata m.kind id now
    (c, result.map fun record => (record, m))

end Coordinator

/-- How the work of a stage ended. -/
inductive StageEnd where
  | result (r : Except MethodError Unit)
  /-- The work broke down without a result. -/
  | crashed (report : String)

namespace StageEnd

/-- The status of the stage. -/
def status : StageEnd → Status
  | result (.ok ()) => .completed
  | result (.error e) => if e.isCancelled then .cancelled else .error
  | crashed _ => .error

/-- What the record of the stage says. -/
def details (stage : Stage) : StageEnd → String
  | result (.ok ()) => stage.name ++ " completed"
  | result (.error e) => e.message
  | crashed report => stage.name ++ " task failed: " ++ report

end StageEnd

/-- The status of a metadata fetch. -/
def fetchStatus : Except MethodError Coordinates → Status
  | .ok _ => .completed
  | .error _ => .error

/-- What the record of a metadata fetch says: file and position, or what went wrong. -/
def fetchDetails : Except MethodError Coordinates → String
  | .ok c => c.logFile ++ ":" ++ Text.int64Text c.logPos
  | .error e => e.message

end ReplicaSeed
