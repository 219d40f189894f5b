import ReplicaSeed.Agent.Error
import ReplicaSeed.Operation.Record
import ReplicaSeed.Operation.Request

/-!
# The coordinator

The agent holds at most one operation. A request either starts a stage, with a record that is
`Running`, or changes nothing. Whoever does the work of the stage then reports its progress, its
processes and its end under the key of the record; a report counts only as long as that very record
is in place and running.

Requests and reports that are accepted give a record to be published: the one that is stored.

## Main definitions

* `Coordinator`: the state.
* `DispatchKey`: what names one start of one stage.
* `Coordinator.start`, `Coordinator.beginMetadata`: requests for work. A request draws its number
  first; others may come in before it is its turn (`startAs`, `beginMetadataAs`).
* `Coordinator.progress`, `Coordinator.processStarted`, `Coordinator.finish`: reports.
* `Coordinator.abort`: the request to stop the process of a stage.
-/

namespace ReplicaSeed

/-- What names one start of one stage. -/
structure DispatchKey where
  seedId : SeedId
  stage : Stage
  generation : Generation
  deriving DecidableEq, Repr

/-- The start that a record belongs to. -/
def StageRecord.key (r : StageRecord) : DispatchKey := ⟨r.seedId, r.stage, r.generation⟩

/-- The state of the coordinator. -/
structure Coordinator where
  hostname : String
  operation : Option Operation := none
  /-- The number of the latest dispatch. -/
  generation : Generation := 0
  deriving DecidableEq, Repr

/-- What an accepted request for a stage leads to. -/
inductive Start where
  /-- The work of the stage is to be done; its record is to be published. -/
  | dispatched (record : StageRecord) (side : Side)
  /-- The stage is in flight or done already. -/
  | already (stage : Stage)
  deriving DecidableEq, Repr

/-- The answer to an accepted request. -/
def Start.outcome : Start → StartOutcome
  | dispatched .. => .started
  | already stage => .alreadyStarted stage

namespace Coordinator

variable (c : Coordinator)

/-- The coordinator after a number was drawn for a dispatch. -/
def draw : Coordinator := { c with generation := c.generation + 1 }

/-- The operation that the coordinator holds, if it has the given identifier. -/
def operation? (id : SeedId) : Option Operation := c.operation.filter fun op => op.seedId == id

/-- The held operation of an identifier and a method. -/
def heldOperation (id : SeedId) (method : Method) : Except RequestError Operation :=
  match c.operation? id with
  | none => .error (.seedNotFound id)
  | some op =>
    if op.method = method then .ok op else .error (.methodMismatch id op.method method)

/-- The coordinator with a fresh operation, in place of the one that it may have held. -/
def found (id : SeedId) (side : Side) (method : Method) : Coordinator × Operation :=
  let op := Operation.fresh id side method
  ({ c with operation := some op }, op)

/-- The coordinator and the operation that a Prepare is about: the held one if it has the
identifier, or else a fresh one, which takes the place of one without a stage in flight. -/
def operationForPrepare (id : SeedId) (side : Side) (method : Method) :
    Except RequestError (Coordinator × Operation) :=
  match c.operation with
  | none => .ok (c.found id side method)
  | some op =>
    if op.seedId = id then
      if op.method = method then .ok (c, op) else .error (.methodMismatch id op.method method)
    else
      match op.runningStage? with
      | some stage => .error (.operationRunning op.seedId stage)
      | none => .ok (c.found id side method)

/-- The coordinator and the operation that a request is about. -/
def operationFor (id : SeedId) (method : Method) :
    StageRequest → Except RequestError (Coordinator × Operation)
  | .prepare side => c.operationForPrepare id side method
  | _ => (c.heldOperation id method).map fun op => (c, op)

/-- The side of the operation once a request is accepted: Prepare sets it. -/
def requestedSide (op : Operation) : StageRequest → Side
  | .prepare side => side
  | _ => op.side

/-- Starts a stage, under a number that was drawn for it, with a method that can be used. -/
def startAs (number : Generation) (method : Method) (id : SeedId) (request : StageRequest)
    (now : Instant) : Coordinator × Except RequestError Start :=
  match c.operationFor id method request with
  | .error e => (c, .error e)
  | .ok (c, op) =>
    if (op.record? request.stage).any (·.status.blocksRestart) then
      (c, .ok (.already request.stage))
    else
      match Phase.permit id op.phase request.stage with
      | .error e => (c, .error e)
      | .ok () =>
        let op := { op with side := requestedSide op request }
        let record := StageRecord.running op request.stage c.hostname now number
        ({ c with operation := some (op.enter record) }, .ok (.dispatched record op.side))

/-- Draws a number and starts a stage with a method that can be used. -/
def start (method : Method) (id : SeedId) (request : StageRequest) (now : Instant) :
    Coordinator × Except RequestError Start :=
  c.draw.startAs c.draw.generation method id request now

/-- Begins to read the coordinates of the backup, under a number that was drawn for it. It does not
move the operation. -/
def beginMetadataAs (number : Generation) (method : Method) (id : SeedId) (now : Instant) :
    Coordinator × Except RequestError StageRecord :=
  match c.heldOperation id method with
  | .error e => (c, .error e)
  | .ok op =>
    if (op.record? .backup).any (·.status == .completed) then
      match Phase.permit id op.phase .metadataFetch with
      | .error e => (c, .error e)
      | .ok () =>
        let record := StageRecord.running op .metadataFetch c.hostname now number
        ({ c with operation := some (op.withRecord .metadataFetch record) }, .ok record)
    else (c, .error (.stageNotCompleted id .backup))

/-- Draws a number and begins to read the coordinates of the backup. -/
def beginMetadata (method : Method) (id : SeedId) (now : Instant) :
    Coordinator × Except RequestError StageRecord :=
  c.draw.beginMetadataAs c.draw.generation method id now

/-- The operation and the record that a key names, as long as they are in place. -/
def recordOf? (key : DispatchKey) : Option (Operation × StageRecord) := do
  let op ← c.operation? key.seedId
  let record ← op.record? key.stage
  if record.generation = key.generation then some (op, record) else none

/-- The same, if the record is running. -/
def runningRecord? (key : DispatchKey) : Option (Operation × StageRecord) :=
  (c.recordOf? key).filter fun (_, record) => record.status == .running

/-- The coordinator that holds `op` with `record` under `stage`. -/
def store (op : Operation) (stage : Stage) (record : StageRecord) : Coordinator :=
  { c with operation := some (op.withRecord stage record) }

/-- The coordinator that holds `op` where `stage` has ended with `record`. -/
def storeEnd (op : Operation) (stage : Stage) (record : StageRecord) : Coordinator :=
  { c with operation := some (op.endStage stage record) }

/-- A report of progress. -/
def progress (key : DispatchKey) (details : String) (now : Instant) :
    Option (Coordinator × StageRecord) :=
  (c.runningRecord? key).map fun (op, record) =>
    let record := { record with details, updatedAt := now }
    (c.store op key.stage record, record)

/-- A report of a new process. If it does not count, the process is to be cancelled. -/
def processStarted (key : DispatchKey) (process : ProcessId) (now : Instant) : Option Coordinator :=
  (c.runningRecord? key).map fun (op, record) =>
    c.store op key.stage { record with process := some process, updatedAt := now }

/-- A report of the end. It does not count after an abort. -/
def finish (key : DispatchKey) (status : Status) (details : String) (now : Instant) :
    Option (Coordinator × StageRecord) :=
  ((c.recordOf? key).filter fun (_, record) => record.status != .cancelled).map
    fun (op, record) =>
      let record := record.settle status details now
      (c.storeEnd op key.stage record, record)

/-- Stops the process of a running stage: the record is cancelled at once, and the process is to be.
Between two commands a stage has no process. -/
def abort (finished : ProcessId → Bool) (id : SeedId) (stage : Stage) (now : Instant) :
    Except RequestError (Coordinator × StageRecord × ProcessId) :=
  match c.operation? id with
  | none => .error (.seedNotFound id)
  | some op =>
    match op.record? stage with
    | none => .error (.stageNotFound id stage)
    | some record =>
      if record.status = .running then
        match record.process.filter fun p => !finished p with
        | none => .error (.notRunning id stage)
        | some process =>
          let record := record.settle .cancelled (stage.name ++ " aborted") now
          .ok (c.storeEnd op stage record, record, process)
      else .error (.notRunning id stage)

/-- The record of a stage. -/
def stage (id : SeedId) (stage : Stage) : Except RequestError StageRecord :=
  match c.operation? id with
  | none => .error (.seedNotFound id)
  | some op =>
    match op.record? stage with
    | none => .error (.stageNotFound id stage)
    | some record => .ok record

/-- The coordinator in a diagnostic. -/
def diagnostic : String :=
  "SeedCoordinator \x7b hostname: " ++ Text.quoted c.hostname ++ ", operation: " ++
    (match c.operation with
      | none => "None"
      | some op => "Some(" ++ op.seedId.diagnostic ++ ")") ++ ", .. \x7d"

end Coordinator

end ReplicaSeed
