import ReplicaSeed.Execution.Process
import ReplicaSeed.Operation.Phase
import ReplicaSeed.Seed.Id
import ReplicaSeed.Seed.Method
import ReplicaSeed.Seed.Side
import ReplicaSeed.Time.Instant

/-!
# Operations and their stage records

The operation that an agent holds, with one record for each stage that was started.

## Main definitions

* `StageRecord`: the progress of one stage.
* `Operation`: the operation.
* `Operation.enter`, `Operation.endStage`: a stage begins, a stage ends.
* `Operation.phase`, `Operation.runningStage?`: what it is doing.
-/

namespace ReplicaSeed

/-- The number of a dispatch. Numbers are drawn in order, in 64 bits. -/
abbrev Generation := UInt64

/-- The progress of one stage. -/
structure StageRecord where
  seedId : SeedId
  stage : Stage
  side : Side
  method : Method
  hostname : String
  startedAt : Instant
  updatedAt : Instant
  status : Status
  /-- What the stage last reported, or why it failed. -/
  details : String
  /-- The process that the stage last reported; none once the stage has ended. -/
  process : Option ProcessId := none
  /-- The dispatch that the record belongs to. -/
  generation : Generation := 0
  deriving DecidableEq, Repr

/-- The operation that an agent holds. -/
structure Operation where
  seedId : SeedId
  /-- The stage that was started last. -/
  stage : Stage
  /-- The side that the last accepted Prepare named. -/
  side : Side
  /-- The method that the first Prepare named. -/
  method : Method
  /-- The status of the stage that was started last. -/
  status : Status
  records : Stage.Map StageRecord
  deriving DecidableEq, Repr

namespace Operation

/-- An operation of which no stage was started. -/
def fresh (seedId : SeedId) (side : Side) (method : Method) : Operation :=
  ⟨seedId, .prepare, side, method, .running, .empty⟩

/-- The record of a stage, if it was started. -/
def record? (op : Operation) (stage : Stage) : Option StageRecord := op.records.get? stage

/-- The operation with a record for a stage, in place of the one it may have had. -/
def withRecord (op : Operation) (stage : Stage) (record : StageRecord) : Operation :=
  { op with records := op.records.insert stage record }

/-- The operation in which a stage begins. -/
def enter (op : Operation) (record : StageRecord) : Operation :=
  { op.withRecord record.stage record with stage := record.stage, status := .running }

/-- The operation where a stage has ended with `record`; if it is the current one, so has the
operation. -/
def endStage (op : Operation) (stage : Stage) (record : StageRecord) : Operation :=
  { op.withRecord stage record with
    status := if op.stage = stage then record.status else op.status }

/-- What the operation is doing. -/
def phase (op : Operation) : Phase :=
  if op.records.isEmpty then .idle else .of op.stage op.status

/-- The forward stage that is in flight, if there is one. -/
def runningStage? (op : Operation) : Option Stage :=
  (op.records.toList.find? fun (_, r) => r.stage.isForward && r.status == .running).map
    fun (_, r) => r.stage

end Operation

namespace StageRecord

/-- The record of a stage that starts now. -/
def running (op : Operation) (stage : Stage) (hostname : String) (now : Instant)
    (generation : Generation) : StageRecord where
  seedId := op.seedId
  stage := stage
  side := op.side
  method := op.method
  hostname := hostname
  startedAt := now
  updatedAt := now
  status := .running
  details := stage.name ++ " started"
  process := none
  generation := generation

/-- The record of the stage when it has ended. -/
def settle (r : StageRecord) (status : Status) (details : String) (now : Instant) : StageRecord :=
  { r with status, details, process := none, updatedAt := now }

end StageRecord

end ReplicaSeed
